import GreenticDeployer.Store.Calls

/-!
# What a storage call can do

One inversion for every call: the change a committed transaction made to the
tables, and the journal it then wrote. Each invariant of the store is derived
from it.
-/

set_option maxHeartbeats 200000

namespace GreenticDeployer.Store

open Spec Engine Lib

variable {V B : Type} {json : StoreJson V} {ext : Externals}

theorem nextGeneration_ok {generation next : Nat} (returned : nextGeneration generation = .ok next) :
    next = generation + 1 := by
  unfold nextGeneration at returned
  split at returned
  · cases returned
    rfl
  · cases returned

theorem serializeForWrite_ok {α : Type} {codec : JsonCodec V α} {value : α} {data : V}
    (returned : serializeForWrite codec value = .ok data) : codec.toValue value = .ok data := by
  unfold serializeForWrite at returned
  split at returned
  · cases returned
  · cases returned
    assumption

theorem decode_ok {α : Type} {codec : JsonCodec V α} {value : α} {data : V}
    (returned : decode codec data = .ok value) : codec.fromValue data = .ok value := by
  unfold decode at returned
  split at returned
  · cases returned
  · cases returned
    assumption

theorem checkPrecondition_ok {envId : EnvId} {precondition : Precondition}
    {revision : EnvRevision} {u : Unit}
    (returned : checkPrecondition envId precondition revision = .ok u) :
    precondition.check revision.etag revision.generation = .ok () := by
  unfold checkPrecondition at returned
  split at returned
  · cases returned
  · assumption

theorem liftSpec_ok {checked : Except SpecError Unit} {u : Unit}
    (returned : liftSpec checked = .ok u) : checked = .ok () := by
  unfold liftSpec at returned
  split at returned
  · cases returned
  · rfl

theorem validateEnvironment_ok {env : Environment} {u : Unit}
    (returned : validateEnvironment ext env = .ok u) : env.validate ext = .ok () := by
  obtain ⟨_, _, returned⟩ := bind_ok returned
  exact liftSpec_ok returned

/-- The tables a transaction has written when it reaches its journal, and the
journal it is about to write. -/
inductive Writes (json : StoreJson V) (ext : Externals) (input : StoreInput) (db : Db V B) :
    StorageCall V B → Db V B → Option (MutationJournal V B) → Prop where
  | loadEnv (envId) : Writes json ext input db (.loadEnv envId) db none
  | lookup (envId key) : Writes json ext input db (.lookupIdempotency envId key) db none
  | loadRuntime (envId) : Writes json ext input db (.loadRuntime envId) db none
  | loadAnswers (envId slot) : Writes json ext input db (.loadPackAnswers envId slot) db none
  | loadRoot (envId) : Writes json ext input db (.loadTrustRoot envId) db none
  | loadBackup (envId id) : Writes json ext input db (.loadBackup envId id) db none
  | loadSnapshot (envId) : Writes json ext input db (.loadEnvSnapshot envId) db none
  | journalOnly (journal) : Writes json ext input db (.recordJournal journal) db (some journal)
  | create {env journal data} (encoded : json.environment.toValue env = .ok data)
      (absent : db.environments.lookup env.environmentId = none)
      (valid : env.validate ext = .ok ()) :
      Writes json ext input db (.createEnv env journal)
        (db.putEnv env.environmentId (docRow json data 1)) journal
  | update {env precondition journal data row}
      (encoded : json.environment.toValue env = .ok data)
      (current : db.environments.lookup env.environmentId = some row)
      (pinned : precondition.check row.etag row.generation = .ok ())
      (valid : env.validate ext = .ok ()) :
      Writes json ext input db (.updateEnv env precondition journal)
        (db.putEnv env.environmentId (docRow json data (row.generation + 1))) journal
  | policy {env precondition artifact trustRootPin journal data row}
      (root : (db.trustRoots.lookup env.environmentId).map DocRow.revision = trustRootPin)
      (encoded : json.environment.toValue env = .ok data)
      (current : db.environments.lookup env.environmentId = some row)
      (pinned : precondition.check row.etag row.generation = .ok ())
      (valid : env.validate ext = .ok ()) :
      Writes json ext input db
        (.updateEnvWithRevenuePolicy env precondition artifact trustRootPin journal)
        ((db.putPolicy (artifact.key env.environmentId) artifact).putEnv env.environmentId
          (docRow json data (row.generation + 1))) journal
  | runtime {runtime precondition data generation}
      (encoded : json.runtime.toValue runtime = .ok data)
      (cas : casUpsert (db.environmentRuntimes.lookup runtime.environmentId)
        runtime.environmentId precondition (requireEnv db runtime.environmentId) =
        .ok generation) :
      Writes json ext input db (.upsertRuntime runtime precondition)
        (db.putRuntime runtime.environmentId (docRow json data generation)) none
  | answers {envId slot answers precondition generation}
      (cas : answersUpsertGeneration (db.packAnswers.lookup (envId, slot.asStr)) envId
        precondition (requireEnv db envId) = .ok generation) :
      Writes json ext input db (.upsertPackAnswers envId slot answers precondition)
        (db.putAnswers envId slot.asStr ⟨docRow json answers generation, false⟩) none
  | deleteIdle {envId slot precondition}
      (gone : ∀ row, db.packAnswers.lookup (envId, slot.asStr) = some row → row.deleted = true) :
      Writes json ext input db (.deletePackAnswers envId slot precondition) db none
  | deleteLive {envId slot precondition row}
      (current : db.packAnswers.lookup (envId, slot.asStr) = some row)
      (live : row.deleted = false)
      (pinned : precondition.check row.etag row.generation = .ok ()) :
      Writes json ext input db (.deletePackAnswers envId slot precondition)
        (db.putAnswers envId slot.asStr (tombstone row (row.generation + 1))) none
  | trustRoot {envId doc precondition journal data generation}
      (encoded : json.trustRoot.toValue doc = .ok data)
      (cas : casUpsert (db.trustRoots.lookup envId) envId precondition (requireEnv db envId) =
        .ok generation)
      (schema : checkSchema SchemaVersion.trustRootV1 ⟨doc.schema⟩ = .ok ()) :
      Writes json ext input db (.upsertTrustRoot envId doc precondition journal)
        (db.putTrustRoot envId (docRow json data generation)) journal
  | createBackup {backup journal}
      (fresh : (backup.manifest.envId, backup.manifest.backupId) ∉ db.backups) :
      Writes json ext input db (.createBackup backup journal)
        (db.putBackup backup.manifest.envId backup) journal
  | deleteBackup {envId id journal} :
      Writes json ext input db (.deleteBackup envId id journal) (db.dropBackup envId id) journal
  | deleteNothing {envId id journal} :
      Writes json ext input db (.deleteBackup envId id journal) db none
  | restore {envId snapshot precondition journal env data row runtimes answers}
      (decoded : json.environment.fromValue snapshot.environment = .ok env)
      (encoded : json.environment.toValue env = .ok data)
      (current : db.environments.lookup env.environmentId = some row)
      (pinned : precondition.check row.etag row.generation = .ok ())
      (runtime : restoreRuntime json
        (db.putEnv env.environmentId (docRow json data (row.generation + 1))) envId
        snapshot.runtime = .ok runtimes)
      (restored : restoreAnswers json
        (db.putEnv env.environmentId (docRow json data (row.generation + 1))) envId
        snapshot.packAnswers = .ok answers)
      (valid : env.validate ext = .ok ()) :
      Writes json ext input db (.restoreEnv envId snapshot precondition journal)
        (withAudit ((db.putEnv env.environmentId
          (docRow json data (row.generation + 1))).withSidecars runtimes answers)
          (replayAuditInTx (auditState db) envId snapshot.auditLog snapshot.auditRetention))
        journal
  | importEnv {envId snapshot journal env data runtimes answers audit}
      (decoded : json.environment.fromValue snapshot.environment = .ok env)
      (named : env.environmentId = envId)
      (encoded : json.environment.toValue env = .ok data)
      (absent : db.environments.lookup envId = none)
      (runtime : importRuntime json (db.putEnv envId (docRow json data 1)) envId
        snapshot.runtime = .ok runtimes)
      (imported : snapshot.packAnswers.entries.foldlM (fun answers entry =>
        importAnswersRow json envId answers entry.1 entry.2) db.packAnswers = .ok answers)
      (history : importAudit (auditState db) envId snapshot = .ok audit)
      (valid : env.validate ext = .ok ()) :
      Writes json ext input db (.importEnv envId snapshot journal)
        (withAudit ((db.putEnv envId (docRow json data 1)).withSidecars runtimes answers) audit)
        journal
  | recordAudit {envId eventId event audit}
      (appended : appendAndPrune (auditState db) envId eventId event input.auditCap input.now =
        .ok audit) :
      Writes json ext input db (.recordAudit envId eventId event) (withAudit db audit) none

theorem updateEnvInTx_ok {db after : Db V B} {env : Environment} {precondition : Precondition}
    {revision : EnvRevision}
    (returned : updateEnvInTx json ext db env precondition = .ok (revision, after)) :
    ∃ data row, json.environment.toValue env = .ok data ∧
      db.environments.lookup env.environmentId = some row ∧
      precondition.check row.etag row.generation = .ok () ∧ env.validate ext = .ok () ∧
      after = db.putEnv env.environmentId (docRow json data (row.generation + 1)) := by
  unfold updateEnvInTx at returned
  obtain ⟨_, valid, returned⟩ := bind_ok returned
  obtain ⟨_, _, returned⟩ := bind_ok returned
  obtain ⟨data, encoded, returned⟩ := bind_ok returned
  split at returned
  · cases returned
  · rename_i row current
    obtain ⟨_, pinned, returned⟩ := bind_ok returned
    obtain ⟨_, next, returned⟩ := bind_ok returned
    obtain rfl := nextGeneration_ok next
    cases returned
    exact ⟨data, row, serializeForWrite_ok encoded, current, checkPrecondition_ok pinned,
      validateEnvironment_ok valid, rfl⟩

theorem check_stale {precondition : Precondition} {etag current : StateEtag} (generation : Nat)
    (pinned : precondition.ifMatch = some etag) (stale : current ≠ etag) :
    precondition.check current generation = .error (.conflict ⟨some etag.value, current.value,
      precondition.expectedGeneration, generation⟩) := by
  have conditional : precondition.isConditional = true := by
    simp [Precondition.isConditional, pinned]
  have differs : ¬ (precondition.ifMatch.all (· = current) = true ∧
      precondition.expectedGeneration.all (· = generation) = true) := by
    intro met
    rw [pinned, Option.all_some, decide_eq_true_eq] at met
    exact stale met.1.symm
  rw [Precondition.check, if_neg (not_not.mpr conditional), if_neg differs, pinned, Option.map_some]

theorem updateEnvInTx_stale {db : Db V B} {env : Environment} {precondition : Precondition}
    {etag : StateEtag} {data : V} {row : DocRow V} (valid : validateEnvironment ext env = .ok ())
    (encoded : json.environment.toValue env = .ok data)
    (current : db.environments.lookup env.environmentId = some row)
    (pinned : precondition.ifMatch = some etag) (stale : row.etag ≠ etag) :
    updateEnvInTx json ext db env precondition = .error (.preconditionFailed env.environmentId
      ⟨some etag.value, row.etag.value, precondition.expectedGeneration, row.generation⟩) := by
  have conditional : precondition.isConditional = true := by
    simp [Precondition.isConditional, pinned]
  have refused : checkPrecondition env.environmentId precondition row.revision =
      .error (.preconditionFailed env.environmentId ⟨some etag.value, row.etag.value,
        precondition.expectedGeneration, row.generation⟩) := by
    simp only [checkPrecondition, DocRow.revision, check_stale row.generation pinned stale,
      StorageError.fromPrecondition]
  simp only [updateEnvInTx, valid, conditional, ensure, if_true, serializeForWrite, encoded, current,
    refused, bind, Except.bind]

theorem insertEnv_ok {db after : Db V B} {envId : EnvId} {env : Environment}
    {revision : EnvRevision} (returned : insertEnv json db envId env = .ok (revision, after)) :
    ∃ data, json.environment.toValue env = .ok data ∧ db.environments.lookup envId = none ∧
      after = db.putEnv envId (docRow json data 1) := by
  unfold insertEnv at returned
  split at returned
  · cases returned
  · rename_i data encoded
    split at returned
    · cases returned
    · rename_i absent
      cases returned
      exact ⟨data, serializeForWrite_ok encoded, absent, rfl⟩

theorem readOnly_ok {τ : Type} {db after : Db V B} {reply : Except StorageError τ} {value : τ}
    (returned : readOnly db reply = .ok (value, after)) : reply = .ok value ∧ after = db := by
  unfold readOnly at returned
  split at returned
  · cases returned
    exact ⟨rfl, rfl⟩
  · cases returned

theorem journaled_ok {τ : Type} {x : Except StorageError (Db V B)} {result : τ}
    {value : τ} {after : Db V B}
    (returned : (x >>= fun db => (pure (result, db) : Except StorageError (τ × Db V B))) =
      .ok (value, after)) : x = .ok after ∧ result = value := by
  obtain ⟨db, wrote, returned⟩ := bind_ok returned
  cases returned
  exact ⟨wrote, rfl⟩

theorem restoreEnv_writes {input : StoreInput} {db after : Db V B} {envId : EnvId}
    {snapshot : EnvSnapshot V} {precondition : Precondition}
    {journal : Option (MutationJournal V B)} {revision : EnvRevision}
    (returned : restoreEnv json ext db envId snapshot precondition journal input.auditCap
      input.now = .ok (revision, after)) :
    ∃ mid, Writes json ext input db (.restoreEnv envId snapshot precondition journal) mid journal ∧
      journal? mid journal input.auditCap input.now = .ok after := by
  unfold restoreEnv at returned
  obtain ⟨env, decoded, returned⟩ := bind_ok returned
  obtain ⟨_, _, returned⟩ := bind_ok returned
  obtain ⟨⟨_, written⟩, updated, returned⟩ := bind_ok returned
  obtain ⟨data, row, encoded, current, pinned, valid, rfl⟩ := updateEnvInTx_ok updated
  obtain ⟨runtimes, runtime, returned⟩ := bind_ok returned
  obtain ⟨answers, restored, returned⟩ := bind_ok returned
  obtain ⟨wrote, _⟩ := journaled_ok returned
  exact ⟨_, .restore (decode_ok decoded) encoded current pinned runtime restored valid, wrote⟩

theorem importEnv_writes {input : StoreInput} {db after : Db V B} {envId : EnvId}
    {snapshot : EnvSnapshot V} {journal : Option (MutationJournal V B)} {revision : EnvRevision}
    (returned : importEnv json ext db envId snapshot journal input.auditCap input.now =
      .ok (revision, after)) :
    ∃ mid, Writes json ext input db (.importEnv envId snapshot journal) mid journal ∧
      journal? mid journal input.auditCap input.now = .ok after := by
  unfold importEnv at returned
  obtain ⟨env, decoded, returned⟩ := bind_ok returned
  obtain ⟨_, valid, returned⟩ := bind_ok returned
  obtain ⟨_, named, returned⟩ := bind_ok returned
  obtain ⟨⟨_, written⟩, inserted, returned⟩ := bind_ok returned
  obtain ⟨data, encoded, absent, rfl⟩ := insertEnv_ok inserted
  obtain ⟨runtimes, runtime, returned⟩ := bind_ok returned
  obtain ⟨answers, imported, returned⟩ := bind_ok returned
  obtain ⟨audit, history, returned⟩ := bind_ok returned
  obtain ⟨wrote, _⟩ := journaled_ok returned
  exact ⟨_, .importEnv (decode_ok decoded) (ensure_ok named) encoded absent runtime imported
    history (validateEnvironment_ok valid), wrote⟩

theorem deletePackAnswers_writes {input : StoreInput} {db after : Db V B} {envId : EnvId}
    {slot : CapabilitySlot} {precondition : Precondition} {u : Unit}
    (returned : deletePackAnswers db envId slot precondition = .ok (u, after)) :
    Writes json ext input db (.deletePackAnswers envId slot precondition) after none := by
  unfold deletePackAnswers at returned
  split at returned
  · cases returned
  · split at returned
    · rename_i absent
      cases returned
      exact .deleteIdle (by simp [absent])
    · rename_i row current
      split at returned
      · rename_i gone
        cases returned
        refine .deleteIdle ?_
        rintro other found
        rw [current] at found
        cases found
        exact gone
      · rename_i live
        obtain ⟨_, pinned, returned⟩ := bind_ok returned
        obtain ⟨_, next, returned⟩ := bind_ok returned
        obtain rfl := nextGeneration_ok next
        cases returned
        exact .deleteLive current (by simpa using live) (checkPrecondition_ok pinned)

theorem updateEnvWithRevenuePolicy_writes {input : StoreInput} {db after : Db V B}
    {env : Environment} {precondition : Precondition} {artifact : RevenuePolicyArtifact}
    {trustRootPin : Option EnvRevision} {journal : Option (MutationJournal V B)}
    {revision : EnvRevision}
    (returned : updateEnvWithRevenuePolicy json ext db env precondition artifact trustRootPin
      journal input.auditCap input.now = .ok (revision, after)) :
    ∃ mid, Writes json ext input db
      (.updateEnvWithRevenuePolicy env precondition artifact trustRootPin journal) mid journal ∧
      journal? mid journal input.auditCap input.now = .ok after := by
  unfold updateEnvWithRevenuePolicy at returned
  obtain ⟨_, root, returned⟩ := bind_ok returned
  obtain ⟨_, _, returned⟩ := bind_ok returned
  obtain ⟨_, _, returned⟩ := bind_ok returned
  obtain ⟨⟨_, written⟩, updated, returned⟩ := bind_ok returned
  obtain ⟨data, row, encoded, current, pinned, valid, rfl⟩ := updateEnvInTx_ok updated
  obtain ⟨wrote, _⟩ := journaled_ok returned
  exact ⟨_, .policy (ensure_ok root) encoded current pinned valid, wrote⟩

theorem createBackup_writes {input : StoreInput} {db after : Db V B} {backup : StoredBackup V}
    {journal : Option (MutationJournal V B)} {u : Unit}
    (returned : createBackup db backup journal input.auditCap input.now = .ok (u, after)) :
    ∃ mid, Writes json ext input db (.createBackup backup journal) mid journal ∧
      journal? mid journal input.auditCap input.now = .ok after := by
  simp only [createBackup] at returned
  split at returned
  · cases returned
  · split at returned
    · cases returned
    · rename_i fresh
      obtain ⟨wrote, _⟩ := journaled_ok returned
      exact ⟨_, .createBackup fresh, wrote⟩

theorem transaction_writes {input : StoreInput} {db after : Db V B} {call : StorageCall V B}
    {result : call.Result} (committed : transaction json ext input db call = .ok (result, after)) :
    ∃ mid journal, Writes json ext input db call mid journal ∧
      journal? mid journal input.auditCap input.now = .ok after := by
  cases call with
  | loadEnv envId =>
      obtain ⟨_, rfl⟩ := readOnly_ok committed
      exact ⟨_, none, .loadEnv envId, rfl⟩
  | lookupIdempotency envId key =>
      cases committed
      exact ⟨_, none, .lookup envId key, rfl⟩
  | loadRuntime envId =>
      obtain ⟨_, rfl⟩ := readOnly_ok committed
      exact ⟨_, none, .loadRuntime envId, rfl⟩
  | loadPackAnswers envId slot =>
      obtain ⟨_, rfl⟩ := readOnly_ok committed
      exact ⟨_, none, .loadAnswers envId slot, rfl⟩
  | loadTrustRoot envId =>
      obtain ⟨_, rfl⟩ := readOnly_ok committed
      exact ⟨_, none, .loadRoot envId, rfl⟩
  | loadBackup envId backupId =>
      cases committed
      exact ⟨_, none, .loadBackup envId backupId, rfl⟩
  | loadEnvSnapshot envId =>
      obtain ⟨_, rfl⟩ := readOnly_ok committed
      exact ⟨_, none, .loadSnapshot envId, rfl⟩
  | recordJournal journal =>
      simp only [transaction] at committed
      split at committed
      · rename_i wrote
        cases committed
        exact ⟨_, _, .journalOnly journal, wrote⟩
      · cases committed
  | createEnv env journal =>
      simp only [transaction, createEnv] at committed
      obtain ⟨_, valid, committed⟩ := bind_ok committed
      obtain ⟨⟨_, written⟩, inserted, committed⟩ := bind_ok committed
      obtain ⟨data, encoded, absent, rfl⟩ := insertEnv_ok inserted
      obtain ⟨wrote, _⟩ := journaled_ok committed
      exact ⟨_, _, .create encoded absent (validateEnvironment_ok valid), wrote⟩
  | updateEnv env precondition journal =>
      simp only [transaction, updateEnv] at committed
      obtain ⟨⟨_, written⟩, updated, committed⟩ := bind_ok committed
      obtain ⟨data, row, encoded, current, pinned, valid, rfl⟩ := updateEnvInTx_ok updated
      obtain ⟨wrote, _⟩ := journaled_ok committed
      exact ⟨_, _, .update encoded current pinned valid, wrote⟩
  | upsertRuntime runtime precondition =>
      simp only [transaction, upsertRuntime] at committed
      obtain ⟨_, _, committed⟩ := bind_ok committed
      obtain ⟨data, encoded, committed⟩ := bind_ok committed
      obtain ⟨generation, cas, committed⟩ := bind_ok committed
      cases committed
      exact ⟨_, none, .runtime (serializeForWrite_ok encoded) cas, rfl⟩
  | upsertPackAnswers envId slot answers precondition =>
      simp only [transaction, upsertPackAnswers] at committed
      obtain ⟨generation, cas, committed⟩ := bind_ok committed
      cases committed
      exact ⟨_, none, .answers cas, rfl⟩
  | deletePackAnswers envId slot precondition =>
      exact ⟨_, none, deletePackAnswers_writes committed, rfl⟩
  | upsertTrustRoot envId doc precondition journal =>
      simp only [transaction, upsertTrustRoot] at committed
      obtain ⟨_, schema, committed⟩ := bind_ok committed
      obtain ⟨data, encoded, committed⟩ := bind_ok committed
      obtain ⟨generation, cas, committed⟩ := bind_ok committed
      obtain ⟨wrote, _⟩ := journaled_ok committed
      exact ⟨_, _, .trustRoot (serializeForWrite_ok encoded) cas (liftSpec_ok schema), wrote⟩
  | updateEnvWithRevenuePolicy env precondition artifact trustRootPin journal =>
      obtain ⟨mid, writes, wrote⟩ := updateEnvWithRevenuePolicy_writes committed
      exact ⟨mid, _, writes, wrote⟩
  | createBackup backup journal =>
      obtain ⟨mid, writes, wrote⟩ := createBackup_writes committed
      exact ⟨mid, _, writes, wrote⟩
  | deleteBackup envId backupId journal =>
      simp only [transaction, deleteBackup] at committed
      split at committed
      · obtain ⟨wrote, _⟩ := journaled_ok committed
        exact ⟨_, _, .deleteBackup, wrote⟩
      · cases committed
        exact ⟨_, none, .deleteNothing, rfl⟩
  | restoreEnv envId snapshot precondition journal =>
      obtain ⟨mid, writes, wrote⟩ := restoreEnv_writes committed
      exact ⟨mid, _, writes, wrote⟩
  | importEnv envId snapshot journal =>
      obtain ⟨mid, writes, wrote⟩ := importEnv_writes committed
      exact ⟨mid, _, writes, wrote⟩
  | recordAudit envId eventId event =>
      simp only [transaction, recordAudit] at committed
      obtain ⟨audit, appended, committed⟩ := bind_ok committed
      cases committed
      exact ⟨_, none, .recordAudit appended, rfl⟩

structure SameTables (before after : Db V B) : Prop where
  environments : after.environments = before.environments
  environmentRuntimes : after.environmentRuntimes = before.environmentRuntimes
  packAnswers : after.packAnswers = before.packAnswers
  trustRoots : after.trustRoots = before.trustRoots
  revenuePolicies : after.revenuePolicies = before.revenuePolicies
  backups : after.backups = before.backups

theorem journalInTx_ok {db after : Db V B} {journal : MutationJournal V B}
    {auditCap : Option Nat} {now : Timestamp}
    (returned : journalInTx db journal auditCap now = .ok after) :
    ∃ ledger audit, insertLedger db.idempotencyLedger journal = .ok ledger ∧
      appendAndPrune (auditState db) journal.envId journal.auditEventId journal.auditEvent
        auditCap now = .ok audit ∧
      after = withAudit { db with idempotencyLedger := ledger } audit := by
  unfold journalInTx at returned
  split at returned
  · cases returned
  · rename_i ledger inserted
    split at returned
    · cases returned
    · rename_i audit appended
      cases returned
      exact ⟨ledger, audit, inserted, appended, rfl⟩

theorem journalInTx_sameTables {db after : Db V B} {journal : MutationJournal V B}
    {auditCap : Option Nat} {now : Timestamp}
    (returned : journalInTx db journal auditCap now = .ok after) : SameTables db after := by
  obtain ⟨ledger, audit, _, _, rfl⟩ := journalInTx_ok returned
  exact ⟨rfl, rfl, rfl, rfl, rfl, rfl⟩

theorem journal?_sameTables {db after : Db V B} {journal : Option (MutationJournal V B)}
    {auditCap : Option Nat} {now : Timestamp}
    (returned : journal? db journal auditCap now = .ok after) : SameTables db after := by
  cases journal with
  | none =>
      cases returned
      exact ⟨rfl, rfl, rfl, rfl, rfl, rfl⟩
  | some journal => exact journalInTx_sameTables returned

theorem execute_writes (json : StoreJson V) (ext : Externals) (input : StoreInput) (db : Db V B)
    (call : StorageCall V B) :
    (∃ e, (execute json ext input db call).1 = .error e ∧
      (execute json ext input db call).2 = db) ∨
    ∃ mid journal, Writes json ext input db call mid journal ∧
      journal? mid journal input.auditCap input.now =
        .ok (execute json ext input db call).2 := by
  rcases execute_cases json ext input db call with ⟨result, committed, _⟩ | failed
  · exact .inr (transaction_writes committed)
  · exact .inl failed

end GreenticDeployer.Store
