import GreenticDeployer.Server.HandlerCalls
import GreenticDeployer.Server.Restores
import GreenticDeployer.Server.Retention
import GreenticDeployer.Server.Idempotency
import GreenticDeployer.Store.AuditEvents
import GreenticDeployer.Store.Imports

/-!
# Disaster recovery

A backup captured on one server is imported into another that does not have the
environment. Every stored backup is whole and under its own digest, and all the
other server can hold of the environment is the audit of refused requests.
-/

set_option maxHeartbeats 200000

namespace GreenticDeployer.Server

open Spec Engine Store Trust Lib

variable {V : Type} {cfg : Config V} {request : Request V} {ctx : Context} {k : Known V}
variable {db mid : Db V (ResponseBody V)} {call : Call V}

structure Intact (cfg : Config V) (envId : EnvId) (backup : StoredBackup V) : Prop where
  named : backup.manifest.envId = envId
  digest : backup.snapshotDigest = cfg.json.sha256Of backup.state
  whole : ∃ snapshot, cfg.json.snapshot.fromValue backup.state = .ok snapshot ∧
    Whole cfg.json cfg.ext envId snapshot

/-- What a capture can rely on, and what the tables hold of an environment that is not
there. -/
structure Archived (cfg : Config V) (db : Db V (ResponseBody V)) : Prop where
  documents : ∀ envId row, db.environments.lookup envId = some row →
    Kept cfg.json cfg.ext envId row.data
  events : db.auditLog.Distinct
  backups : ∀ key backup, db.backups.lookup key = some backup → Intact cfg key.1 backup
  runtimes : ∀ envId, db.environments.lookup envId = none →
    db.environmentRuntimes.lookup envId = none
  answers : ∀ key, db.environments.lookup key.1 = none → db.packAnswers.lookup key = none
  denials : ∀ row ∈ db.auditLog.rows, db.environments.lookup row.envId = none →
    ∃ refused, Denied cfg refused row.envId row.eventId row.event

def Captures (cfg : Config V) (request : Request V) (k : Known V) : Prop :=
  ∀ ctx snapshot revision, request.admission cfg = some ctx →
    k.captured = some (snapshot, revision) → Whole cfg.json cfg.ext ctx.envId snapshot

theorem Archived.empty : Archived cfg Db.empty where
  documents := fun _ _ present => by cases present
  events := List.nodup_nil
  backups := fun _ _ present => by cases present
  runtimes := fun _ _ => rfl
  answers := fun _ _ => rfl
  denials := fun _ member => absurd member List.not_mem_nil

theorem kept_of_encoded {env : Environment} {data : V}
    (encoded : cfg.json.environment.toValue env = .ok data)
    (valid : env.validate cfg.ext = .ok ()) : Kept cfg.json cfg.ext env.environmentId data := by
  refine ⟨env, encoded, ?_, rfl⟩
  obtain ⟨_, schema, _⟩ := bind_ok valid
  simp only [validateEnvironment, schema, liftSpec, valid]
  rfl

theorem loadEnvSnapshot_whole (archived : Archived cfg db) {envId : EnvId}
    {snapshot : EnvSnapshot V} {revision : EnvRevision}
    (returned : Store.loadEnvSnapshot db envId = .ok (snapshot, revision)) :
    Whole cfg.json cfg.ext envId snapshot := by
  unfold loadEnvSnapshot at returned
  split at returned
  · cases returned
  · rename_i row current
    cases returned
    refine ⟨archived.documents envId row current, ?_⟩
    rw [List.map_map]
    exact archived.events.sublist (List.filter_sublist.map _)

theorem drafts_documents (archived : Archived cfg db)
    (drafts : Drafts cfg request ctx k db call mid) :
    ∀ envId row, mid.environments.lookup envId = some row →
      Kept cfg.json cfg.ext envId row.data := by
  cases drafts with
  | create named founds encoded absent valid =>
      exact Table.forall_insert archived.documents (kept_of_encoded encoded valid)
  | update known transforms encoded current fresh valid =>
      exact Table.forall_insert archived.documents (kept_of_encoded encoded valid)
  | policy known transforms priced encoded current fresh valid =>
      exact Table.forall_insert archived.documents (kept_of_encoded encoded valid)
  | restore asked known held unpacked decoded encoded current fresh valid =>
      exact Table.forall_insert archived.documents (kept_of_encoded encoded valid)
  | importEnv asked decoded named encoded absent history valid =>
      exact Table.forall_insert archived.documents (named ▸ kept_of_encoded encoded valid)
  | _ => exact archived.documents

theorem drafts_intact (admitted : request.admission cfg = some ctx) (archived : Archived cfg db)
    (captures : Captures cfg request k) (made : request.Makes cfg call)
    (drafts : Drafts cfg request ctx k db call mid) :
    ∀ key backup, mid.backups.lookup key = some backup → Intact cfg key.1 backup := by
  cases drafts with
  | backup known encoded named =>
      refine Table.forall_insert archived.backups ⟨rfl, ?_, ?_⟩
      · cases made with
        | behind routed made => exact made.2
      · rw [named]
        exact ⟨_, cfg.json.snapshot.fromValue_toValue _ _ encoded,
          captures ctx _ _ admitted known⟩
  | dropBackup known => exact Table.forall_erase archived.backups _
  | _ => exact archived.backups

theorem drafts_events (archived : Archived cfg db)
    (drafts : Drafts cfg request ctx k db call mid) : (auditState mid).log.Distinct := by
  cases drafts with
  | @restore snapshot =>
      exact replayAuditInTx_distinct archived.events ctx.envId snapshot.auditLog
        snapshot.auditRetention
  | importEnv asked decoded named encoded absent history valid =>
      exact importAudit_distinct archived.events history
  | _ => exact archived.events

theorem drafts_auditRows (drafts : Drafts cfg request ctx k db call mid) :
    ∀ row ∈ mid.auditLog.rows, row ∈ db.auditLog.rows ∨ row.envId = ctx.envId := by
  cases drafts with
  | @restore snapshot =>
      exact replayAuditInTx_own (auditState db) ctx.envId snapshot.auditLog
        snapshot.auditRetention
  | importEnv asked decoded named encoded absent history valid => exact importAudit_own history
  | _ => exact fun _ member => .inl member

theorem sidecars_elsewhere {input : StoreInput} {journal : Option (Journal V)}
    (permitted : Permits cfg request ctx k call)
    (writes : Writes cfg.json cfg.ext input db call mid journal) :
    (∀ other, other ≠ ctx.envId →
      mid.environmentRuntimes.lookup other = db.environmentRuntimes.lookup other) ∧
    ∀ key, key.1 ≠ ctx.envId → mid.packAnswers.lookup key = db.packAnswers.lookup key := by
  cases permitted with
  | restore =>
      cases writes with
      | restore decoded encoded current pinned runtime restored valid =>
          have runtimes := fun other => @restoreRuntime_elsewhere _ _ _ _ ctx.envId other _ _ runtime
          refine ⟨runtimes, fun key apart => ?_⟩
          have answers := restoreAnswers_elsewhere restored apart
          exact answers
  | importEnv =>
      cases writes with
      | importEnv decoded named encoded absent runtime imported history valid =>
          have runtimes := fun other => @importRuntime_elsewhere _ _ _ _ ctx.envId other _ _ runtime
          exact ⟨runtimes, fun key => importAnswers_elsewhere imported⟩
  | _ =>
      cases writes <;> exact ⟨fun _ _ => rfl, fun _ _ => rfl⟩

theorem refused_archived (now : Timestamp) (state : ServerState V)
    (refused : request.admission cfg = none) (permitted : permits cfg request k call)
    (made : request.Makes cfg call) (archived : Archived cfg state.db) :
    Archived cfg (execute cfg.json cfg.ext ⟨state.auditCap, now⟩ state.db call).2 := by
  obtain ⟨_, _, rest⟩ := permitted
  rw [refused] at rest
  rcases execute_writes cfg.json cfg.ext ⟨state.auditCap, now⟩ state.db call with
    ⟨e, _, same⟩ | ⟨mid, journal, writes, wrote⟩
  · rw [same]
    exact archived
  · rcases rest with ⟨envId, eventId, event, rfl⟩ | ⟨envId, id, rfl⟩
    · cases writes with
      | @recordAudit _ _ _ audit appended =>
          have after : withAudit state.db audit =
              (execute cfg.json cfg.ext ⟨state.auditCap, now⟩ state.db
                (.recordAudit envId eventId event)).2 := Except.ok.inj wrote
          rw [← after]
          refine ⟨archived.documents, appendAndPrune_distinct archived.events appended,
            archived.backups, archived.runtimes, archived.answers, ?_⟩
          intro row member absent
          rcases appendAndPrune_own appended row member with old | ⟨own, named, recorded⟩
          · exact archived.denials row old absent
          · cases made with
            | denial denied => exact ⟨request, by rw [own, named, recorded]; exact denied⟩
            | behind routed made => exact made.elim
    · cases writes
      have after : state.db = (execute cfg.json cfg.ext ⟨state.auditCap, now⟩ state.db
          (.loadBackup envId id)).2 := Except.ok.inj wrote
      rw [← after]
      exact archived

theorem admitted_archived (now : Timestamp) (state : ServerState V)
    (admitted : request.admission cfg = some ctx) (permitted : permits cfg request k call)
    (made : request.Makes cfg call) (archived : Archived cfg state.db)
    (remembers : Remembers cfg request k state.db) (captures : Captures cfg request k) :
    Archived cfg (execute cfg.json cfg.ext ⟨state.auditCap, now⟩ state.db call).2 := by
  have effect := effect_of_permitted now state permitted
  have rows := effect.environments
  have writes := execute_writes cfg.json cfg.ext ⟨state.auditCap, now⟩ state.db call
  revert effect rows writes
  generalize execute cfg.json cfg.ext ⟨state.auditCap, now⟩ state.db call = outcome
  obtain ⟨reply, after⟩ := outcome
  intro effect rows writes
  dsimp only at effect rows writes ⊢
  -- an environment that is absent now was absent before
  have earlier : ∀ envId, after.environments.lookup envId = none →
      state.db.environments.lookup envId = none := fun envId absent =>
    not_not.mp (mt (rows envId).present (not_not.mpr absent))
  cases effect with
  | quiet same kept =>
      rw [same]
      exact archived
  | denial refused =>
      rw [refused] at admitted
      cases admitted
  | @commit own drafted journal admission drafts journaled wrote learned =>
      cases admission.symm.trans admitted
      have tables := journalInTx_sameTables wrote
      obtain ⟨ledger, audit, _, appended, written⟩ := journalInTx_ok wrote
      have present : after.environments.lookup ctx.envId ≠ none := by
        rw [tables.environments]
        exact drafts_present admitted remembers drafts
      have elsewhere : ∀ envId, after.environments.lookup envId = none → envId ≠ ctx.envId :=
        fun envId absent same => present (same ▸ absent)
      have sidecars : (∀ other, other ≠ ctx.envId → after.environmentRuntimes.lookup other =
            state.db.environmentRuntimes.lookup other) ∧
          ∀ key, key.1 ≠ ctx.envId →
            after.packAnswers.lookup key = state.db.packAnswers.lookup key := by
        rcases writes with ⟨e, _, same⟩ | ⟨middle, pending, writes, committed⟩
        · rw [same]
          exact ⟨fun _ _ => rfl, fun _ _ => rfl⟩
        · have copied := journal?_sameTables committed
          rw [copied.environmentRuntimes, copied.packAnswers]
          exact sidecars_elsewhere (permits_of_admission permitted admitted) writes
      refine ⟨?_, ?_, ?_, ?_, ?_, ?_⟩
      · rw [tables.environments]
        exact drafts_documents archived drafts
      · rw [written]
        exact appendAndPrune_distinct (drafts_events archived drafts) appended
      · rw [tables.backups]
        exact drafts_intact admitted archived captures made drafts
      · intro envId absent
        rw [sidecars.1 envId (elsewhere envId absent)]
        exact archived.runtimes envId (earlier envId absent)
      · intro key absent
        rw [sidecars.2 key (elsewhere key.1 absent)]
        exact archived.answers key (earlier key.1 absent)
      · intro row member absent
        have recorded : row ∈ audit.log.rows := by
          rw [written] at member
          exact member
        have kept : row ∈ state.db.auditLog.rows ∨ row.envId = ctx.envId := by
          rcases appendAndPrune_own appended row recorded with old | ⟨own, _⟩
          · exact drafts_auditRows drafts row old
          · exact .inr (own.trans journaled.envId)
        rcases kept with old | own
        · exact archived.denials row old (earlier row.envId absent)
        · exact absurd own (elsewhere row.envId absent)

theorem exec_archived (now : Timestamp) (state : ServerState V)
    (permitted : permits cfg request k call) (made : request.Makes cfg call)
    (archived : Archived cfg state.db) (remembers : Remembers cfg request k state.db)
    (captures : Captures cfg request k) :
    Archived cfg (execute cfg.json cfg.ext ⟨state.auditCap, now⟩ state.db call).2 := by
  cases admission : request.admission cfg with
  | none => exact refused_archived now state admission permitted made archived
  | some ctx =>
      exact admitted_archived now state admission permitted made archived remembers captures

/-- The startup sweep forgets audit rows and nothing else. -/
theorem Archived.reconcile (archived : Archived cfg db) (auditCap : Option Nat)
    (now : Timestamp) : Archived cfg (reconcileAuditRetention db auditCap now) := by
  have tables := reconcileAuditRetention_sameTables db auditCap now
  have swept := @reconcileAuditRetention_keeping _ _
    (fun state => state.log.Distinct ∧ state.log.rows ⊆ db.auditLog.rows) db
    (fun state envId cap now held => ⟨pruneAuditLog_distinct held.1 envId cap now,
      List.Subset.trans (pruneAuditLog_subset state envId cap now) held.2⟩)
    ⟨archived.events, List.Subset.refl _⟩ auditCap now
  refine ⟨?_, swept.1, ?_, ?_, ?_, ?_⟩
  · rw [tables.environments]
    exact archived.documents
  · rw [tables.backups]
    exact archived.backups
  · rw [tables.environments, tables.environmentRuntimes]
    exact archived.runtimes
  · rw [tables.environments, tables.packAnswers]
    exact archived.answers
  · rw [tables.environments]
    exact fun row member => archived.denials row (swept.2 member)

theorem Captures.learn {after : Known V} (captures : Captures cfg request k)
    (archived : Archived cfg db) (permitted : permits cfg request k call)
    (learned : Learns cfg db k after call) : Captures cfg request after := by
  intro ctx snapshot revision admitted known
  rcases learned.captured with same | ⟨envId, read, rfl, returned, now⟩
  · exact captures ctx snapshot revision admitted (same ▸ known)
  · rw [now] at known
    cases known
    cases permits_of_admission permitted admitted
    exact loadEnvSnapshot_whole archived returned

theorem recovery_rules (cfg : Config V) : (server cfg).Rules (fun _ _ => True)
    (fun request k call => permits cfg request k call ∧ request.Makes cfg call) (Ends cfg)
    (fun state => Keyed cfg state.db ∧ Archived cfg state.db)
    (fun request k state => Remembers cfg request k state.db ∧ Captures cfg request k) where
  body := fun request => (serve_obeys cfg request).only (serve_makes cfg request)
  start := fun request state _ =>
    ⟨.nothing request state.db, fun _ _ _ _ known => (Option.some_ne_none _ known.symm).elim⟩
  reset := by
    rintro pool event _ ⟨keyed, archived⟩
    obtain ⟨audit, swept⟩ :=
      reconcileAuditRetention_audit pool.shared.db (auditCapOf event.1) event.2
    have named : Keyed cfg (reconcileAuditRetention pool.shared.db (auditCapOf event.1)
        event.2) := by
      rw [swept]
      exact keyed.withAudit audit
    exact ⟨named, archived.reconcile (auditCapOf event.1) event.2⟩
  inv := by
    rintro pool index now task call next _ found program sound
    obtain ⟨⟨permitted, made⟩, remembers, captures⟩ := sound.acting found program
    exact ⟨(effect_of_permitted _ _ permitted).keyed sound.inv.1 remembers,
      exec_archived now pool.shared permitted made sound.inv.2 remembers captures⟩
  learned := by
    rintro pool index now task call next _ found program sound
    obtain ⟨⟨permitted, made⟩, remembers, captures⟩ := sound.acting found program
    have learned := learns cfg ⟨pool.shared.auditCap, now⟩ pool.shared.db task.known call
    exact ⟨(remembers.learn sound.inv.1 permitted learned).step
        (effect_of_permitted _ _ permitted).environments,
      captures.learn sound.inv.2 permitted learned⟩
  stable := by
    rintro pool index now task call next _ found program sound other _ _ ⟨remembers, captures⟩
    obtain ⟨⟨permitted, _⟩, _⟩ := sound.acting found program
    exact ⟨remembers.step (effect_of_permitted _ _ permitted).environments, captures⟩

def exported (backup : StoredBackup V) : BackupArtifact V :=
  ⟨⟨"greentic.backup-artifact.v1"⟩, backup.manifest, backup.state, backup.snapshotDigest⟩

section Alone

variable {exec : Timestamp → Db V (ResponseBody V) → (call : Call V) →
  call.Reply × Db V (ResponseBody V)}
variable {call : Call V} {prepared : PreparedMutation V} {after : Db V (ResponseBody V)}
variable {first : Timestamp} {rest : List Timestamp}

end Alone

end GreenticDeployer.Server
