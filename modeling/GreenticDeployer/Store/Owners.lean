import GreenticDeployer.Store.Effects
import GreenticDeployer.Store.Imports

/-!
# Whose rows a call writes

A storage call belongs to one environment: the document, the sidecars and the
journal it carries all name it. It leaves the rows of every other environment as
they are.
-/

set_option maxHeartbeats 200000

namespace GreenticDeployer.Store

open Spec Engine Lib

variable {V B : Type} {json : StoreJson V} {ext : Externals} {envId : EnvId}

/-- Every journal of a call is the environment's. -/
def JournaledFor (envId : EnvId) (journal : Option (MutationJournal V B)) : Prop :=
  ∀ own, journal = some own → own.envId = envId

/-- The call writes, if anything, the rows of one environment. A snapshot to restore
names it too, the store taking the row's key from the document. -/
def StorageCall.Owned (json : StoreJson V) (envId : EnvId) : StorageCall V B → Prop
  | .createEnv env journal => env.environmentId = envId ∧ JournaledFor envId journal
  | .updateEnv env _ journal => env.environmentId = envId ∧ JournaledFor envId journal
  | .updateEnvWithRevenuePolicy env _ _ _ journal =>
    env.environmentId = envId ∧ JournaledFor envId journal
  | .upsertRuntime runtime _ => runtime.environmentId = envId
  | .upsertPackAnswers owner .. => owner = envId
  | .deletePackAnswers owner .. => owner = envId
  | .upsertTrustRoot owner _ _ journal => owner = envId ∧ JournaledFor envId journal
  | .createBackup backup journal => backup.manifest.envId = envId ∧ JournaledFor envId journal
  | .deleteBackup owner _ journal => owner = envId ∧ JournaledFor envId journal
  | .restoreEnv owner snapshot _ journal => owner = envId ∧ JournaledFor envId journal ∧
      ∀ env, json.environment.fromValue snapshot.environment = .ok env → env.environmentId = envId
  | .importEnv owner _ journal => owner = envId ∧ JournaledFor envId journal
  | .recordJournal journal => journal.envId = envId
  | .recordAudit owner .. => owner = envId
  | _ => True

theorem AuditElsewhere.refl (state : AuditState V) : AuditElsewhere envId state state :=
  ⟨rfl, fun _ _ => rfl⟩

theorem SameElsewhere.refl (db : Db V B) : SameElsewhere envId db db :=
  ⟨fun _ _ => rfl, fun _ _ => rfl, fun _ _ => rfl, fun _ _ => rfl, fun _ _ => rfl, fun _ _ => rfl,
    rfl, .refl _⟩

theorem SameElsewhere.trans {a b c : Db V B} (first : SameElsewhere envId a b)
    (second : SameElsewhere envId b c) : SameElsewhere envId a c where
  environments := fun other apart =>
    (second.environments other apart).trans (first.environments other apart)
  environmentRuntimes := fun other apart =>
    (second.environmentRuntimes other apart).trans (first.environmentRuntimes other apart)
  packAnswers := fun key apart => (second.packAnswers key apart).trans (first.packAnswers key apart)
  trustRoots := fun other apart =>
    (second.trustRoots other apart).trans (first.trustRoots other apart)
  revenuePolicies := fun key apart =>
    (second.revenuePolicies key apart).trans (first.revenuePolicies key apart)
  backups := fun key apart => (second.backups key apart).trans (first.backups key apart)
  idempotencyLedger := second.idempotencyLedger.trans first.idempotencyLedger
  audit := first.audit.trans second.audit

theorem putEnv_elsewhere (db : Db V B) (row : DocRow V) :
    SameElsewhere envId db (db.putEnv envId row) :=
  { SameElsewhere.refl db with
    environments := fun _ apart => AList.lookup_insert_ne apart }

theorem putRuntime_elsewhere (db : Db V B) (row : DocRow V) :
    SameElsewhere envId db (db.putRuntime envId row) :=
  { SameElsewhere.refl db with
    environmentRuntimes := fun _ apart => AList.lookup_insert_ne apart }

theorem putAnswers_elsewhere (db : Db V B) (slot : String) (row : AnswersRow V) :
    SameElsewhere envId db (db.putAnswers envId slot row) :=
  { SameElsewhere.refl db with
    packAnswers := fun _ apart =>
      AList.lookup_insert_ne fun same => apart (congrArg Prod.fst same) }

theorem putTrustRoot_elsewhere (db : Db V B) (row : DocRow V) :
    SameElsewhere envId db (db.putTrustRoot envId row) :=
  { SameElsewhere.refl db with
    trustRoots := fun _ apart => AList.lookup_insert_ne apart }

theorem putPolicy_elsewhere (db : Db V B) (artifact : RevenuePolicyArtifact) :
    SameElsewhere envId db (db.putPolicy (artifact.key envId) artifact) :=
  { SameElsewhere.refl db with
    revenuePolicies := fun _ apart =>
      AList.lookup_insert_ne fun same => apart (congrArg PolicyKey.envId same) }

theorem putBackup_elsewhere (db : Db V B) (backup : StoredBackup V) :
    SameElsewhere envId db (db.putBackup envId backup) :=
  { SameElsewhere.refl db with
    backups := fun _ apart => AList.lookup_insert_ne fun same => apart (congrArg Prod.fst same) }

theorem dropBackup_elsewhere (db : Db V B) (id : String) :
    SameElsewhere envId db (db.dropBackup envId id) :=
  { SameElsewhere.refl db with
    backups := fun _ apart => AList.lookup_erase_ne fun same => apart (congrArg Prod.fst same) }

theorem withAudit_elsewhere {db : Db V B} {state : AuditState V}
    (audit : AuditElsewhere envId (auditState db) state) :
    SameElsewhere envId db (withAudit db state) :=
  { SameElsewhere.refl db with audit := audit }

theorem withSidecars_elsewhere {db : Db V B} {runtimes : Table EnvId (DocRow V)}
    {answers : Table (EnvId × String) (AnswersRow V)}
    (apart : ∀ other, other ≠ envId → runtimes.lookup other = db.environmentRuntimes.lookup other)
    (answered : ∀ key, key.1 ≠ envId → answers.lookup key = db.packAnswers.lookup key) :
    SameElsewhere envId db (db.withSidecars runtimes answers) :=
  { SameElsewhere.refl db with
    environmentRuntimes := apart
    packAnswers := answered }

theorem journal?_elsewhere {db after : Db V B} {journal : Option (MutationJournal V B)}
    {auditCap : Option Nat} {now : Timestamp} (owned : JournaledFor envId journal)
    (returned : journal? db journal auditCap now = .ok after) : SameElsewhere envId db after := by
  cases journal with
  | none =>
      cases returned
      exact .refl _
  | some own =>
      obtain rfl := owned own rfl
      obtain ⟨ledger, audit, inserted, appended, rfl⟩ := journalInTx_ok returned
      have kept : ledger.filter (fun row => row.envId ≠ own.envId) =
          db.idempotencyLedger.filter fun row => row.envId ≠ own.envId := by
        rw [(insertLedger_ok inserted).2, evictLedger_elsewhere, List.filter_append]
        simp [MutationJournal.ledgerRow]
      exact { SameElsewhere.refl db with
        idempotencyLedger := kept
        audit := appendAndPrune_elsewhere appended }

theorem AuditLog.place_elsewhere (log : AuditLog V) (entry : AuditEntry V)
    (apart : ∀ row ∈ log.rows, row.id ≠ entry.id) :
    (log.place ⟨entry, envId⟩).rows.filter (fun row => row.envId ≠ envId) =
      log.rows.filter fun row => row.envId ≠ envId := by
  have split_at : log.rows.filter (fun row => row.id < entry.id) ++
      log.rows.filter (fun row => entry.id < row.id) = log.rows := by
    have ascending := List.pairwise_map.mp log.ascending
    revert apart ascending
    induction log.rows with
    | nil => exact fun _ _ => rfl
    | cons row rest ih =>
        intro apart ascending
        obtain ⟨first, ascending⟩ := List.pairwise_cons.mp ascending
        have rested := ih (fun other member => apart other (List.mem_cons_of_mem _ member)) ascending
        rcases lt_or_gt_of_ne (apart row List.mem_cons_self) with lower | higher
        · have no : ¬ entry.id < row.id := by omega
          simpa [List.filter_cons, lower, no] using rested
        · have none : rest.filter (fun other => other.id < entry.id) = [] := by
            refine List.filter_eq_nil_iff.mpr fun other member => ?_
            have := first other member
            simp only [decide_eq_true_eq]
            omega
          have no : ¬ row.id < entry.id := by omega
          rw [none, List.nil_append] at rested
          simp [higher, no, none, rested]
  have narrowed := congrArg (List.filter fun row : AuditRow V => row.envId ≠ envId) split_at
  simpa [AuditLog.place, List.filter_append, List.filter_cons] using narrowed

theorem replayAuditInTx_elsewhere (state : AuditState V) (auditLog : List (AuditEntry V))
    (auditRetention : Option AuditRetention) :
    AuditElsewhere envId state (replayAuditInTx state envId auditLog auditRetention) := by
  have placed : ∀ (log : AuditLog V) (entry : AuditEntry V),
      (replayAuditEntry log envId entry).rows.filter (fun row => row.envId ≠ envId) =
        log.rows.filter fun row => row.envId ≠ envId := by
    intro log entry
    unfold replayAuditEntry
    split
    · rfl
    · rename_i fresh
      have apart : ∀ row ∈ log.rows, row.id ≠ entry.id := fun row member same =>
        fresh (.inr (List.any_eq_true.mpr ⟨row, member, by simp [same]⟩))
      exact log.place_elsewhere entry apart
  have replayed : ∀ (entries : List (AuditEntry V)) (log : AuditLog V),
      (entries.foldl (fun log entry => replayAuditEntry log envId entry) log).rows.filter
        (fun row => row.envId ≠ envId) = log.rows.filter fun row => row.envId ≠ envId := by
    intro entries
    induction entries with
    | nil => exact fun log => rfl
    | cons entry rest ih => exact fun log => (ih _).trans (placed log entry)
  refine ⟨replayed _ _, fun other apart => ?_⟩
  cases auditRetention with
  | none => rfl
  | some captured => exact AList.lookup_insert_ne apart

theorem importAuditEntry_elsewhere {log after : AuditLog V} {entry : AuditEntry V}
    (returned : importAuditEntry log envId entry = .ok after) :
    after.rows.filter (fun row => row.envId ≠ envId) =
      log.rows.filter fun row => row.envId ≠ envId := by
  unfold importAuditEntry at returned
  split at returned
  · cases returned
  · split at returned
    · cases returned
      rfl
    · cases returned
      simp [AuditLog.push, List.filter_append]

theorem importAudit_elsewhere {state after : AuditState V} {snapshot : EnvSnapshot V}
    (returned : importAudit state envId snapshot = .ok after) :
    AuditElsewhere envId state after := by
  unfold importAudit at returned
  obtain ⟨log, imported, returned⟩ := bind_ok returned
  have rows : log.rows.filter (fun row => row.envId ≠ envId) =
      state.log.rows.filter fun row => row.envId ≠ envId :=
    foldlM_invariant (fun log => log.rows.filter (fun row => row.envId ≠ envId) =
      state.log.rows.filter fun row => row.envId ≠ envId) _
      (fun _ _ _ _ stepped held => (importAuditEntry_elsewhere stepped).trans held) imported rfl
  split at returned
  · cases returned
    exact ⟨rows, fun _ _ => rfl⟩
  · obtain ⟨_, _, returned⟩ := bind_ok returned
    cases returned
    exact ⟨rows, fun _ apart => AList.lookup_insert_ne apart⟩

/-- What a committed transaction wrote before its journal. -/
theorem writes_elsewhere {input : StoreInput} {db mid : Db V B} {call : StorageCall V B}
    {journal : Option (MutationJournal V B)} (owned : call.Owned json envId)
    (writes : Writes json ext input db call mid journal) :
    SameElsewhere envId db mid ∧ JournaledFor envId journal := by
  have nothing : JournaledFor envId (none : Option (MutationJournal V B)) := fun _ none => by
    cases none
  cases writes with
  | loadEnv => exact ⟨.refl _, nothing⟩
  | lookup => exact ⟨.refl _, nothing⟩
  | loadRuntime => exact ⟨.refl _, nothing⟩
  | loadAnswers => exact ⟨.refl _, nothing⟩
  | loadRoot => exact ⟨.refl _, nothing⟩
  | loadBackup => exact ⟨.refl _, nothing⟩
  | loadSnapshot => exact ⟨.refl _, nothing⟩
  | journalOnly own =>
      refine ⟨.refl _, ?_⟩
      rintro _ ⟨⟩
      exact owned
  | create encoded absent valid =>
      obtain ⟨rfl, journaled⟩ := owned
      exact ⟨putEnv_elsewhere _ _, journaled⟩
  | update encoded current pinned valid =>
      obtain ⟨rfl, journaled⟩ := owned
      exact ⟨putEnv_elsewhere _ _, journaled⟩
  | policy root encoded current pinned valid =>
      obtain ⟨rfl, journaled⟩ := owned
      exact ⟨(putPolicy_elsewhere _ _).trans (putEnv_elsewhere _ _), journaled⟩
  | runtime encoded cas =>
      obtain rfl := owned
      exact ⟨putRuntime_elsewhere _ _, nothing⟩
  | answers cas =>
      obtain rfl := owned
      exact ⟨putAnswers_elsewhere _ _ _, nothing⟩
  | deleteIdle gone => exact ⟨.refl _, nothing⟩
  | deleteLive current live pinned =>
      obtain rfl := owned
      exact ⟨putAnswers_elsewhere _ _ _, nothing⟩
  | trustRoot encoded cas schema =>
      obtain ⟨rfl, journaled⟩ := owned
      exact ⟨putTrustRoot_elsewhere _ _, journaled⟩
  | createBackup fresh =>
      obtain ⟨rfl, journaled⟩ := owned
      exact ⟨putBackup_elsewhere _ _, journaled⟩
  | deleteBackup =>
      obtain ⟨rfl, journaled⟩ := owned
      exact ⟨dropBackup_elsewhere _ _, journaled⟩
  | deleteNothing => exact ⟨.refl _, nothing⟩
  | restore decoded encoded current pinned runtime restored valid =>
      obtain ⟨rfl, journaled, named⟩ := owned
      obtain own := named _ decoded
      rw [own] at runtime restored ⊢
      have sidecars := withSidecars_elsewhere (fun other apart =>
        restoreRuntime_elsewhere runtime apart) fun key apart =>
          restoreAnswers_elsewhere restored apart
      exact ⟨((putEnv_elsewhere _ _).trans sidecars).trans
        (withAudit_elsewhere (replayAuditInTx_elsewhere _ _ _)), journaled⟩
  | importEnv decoded named encoded absent runtime imported history valid =>
      obtain ⟨rfl, journaled⟩ := owned
      have sidecars := withSidecars_elsewhere (fun other apart =>
        importRuntime_elsewhere runtime apart) fun key apart =>
          importAnswers_elsewhere imported apart
      exact ⟨((putEnv_elsewhere _ _).trans sidecars).trans
        (withAudit_elsewhere (importAudit_elsewhere history)), journaled⟩
  | recordAudit appended =>
      obtain rfl := owned
      exact ⟨withAudit_elsewhere (appendAndPrune_elsewhere appended), nothing⟩

theorem execute_elsewhere (json : StoreJson V) (ext : Externals) (input : StoreInput) (db : Db V B)
    {call : StorageCall V B} (owned : call.Owned json envId) :
    SameElsewhere envId db (execute json ext input db call).2 := by
  rcases execute_writes json ext input db call with ⟨_, _, same⟩ | ⟨mid, journal, writes, wrote⟩
  · rw [same]
    exact .refl db
  · obtain ⟨written, journaled⟩ := writes_elsewhere owned writes
    exact written.trans (journal?_elsewhere journaled wrote)

end GreenticDeployer.Store
