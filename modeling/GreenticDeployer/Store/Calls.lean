import GreenticDeployer.Lib.Runs
import GreenticDeployer.Store.Sqlite

/-!
# Storage calls

The methods of the storage trait as one type of calls. A call that fails rolls
its transaction back, so it leaves the database as it was.
-/

set_option maxHeartbeats 200000

namespace GreenticDeployer.Store

open Spec Engine Lib

variable {V B : Type}

inductive StorageCall (V B : Type) where
  | loadEnv (envId : EnvId)
  | createEnv (env : Environment) (journal : Option (MutationJournal V B))
  | updateEnv (env : Environment) (precondition : Precondition)
      (journal : Option (MutationJournal V B))
  | lookupIdempotency (envId : EnvId) (key : String)
  | recordJournal (journal : MutationJournal V B)
  | loadRuntime (envId : EnvId)
  | upsertRuntime (runtime : EnvironmentRuntime) (precondition : Option Precondition)
  | loadPackAnswers (envId : EnvId) (slot : CapabilitySlot)
  | upsertPackAnswers (envId : EnvId) (slot : CapabilitySlot) (answers : V)
      (precondition : Option Precondition)
  | deletePackAnswers (envId : EnvId) (slot : CapabilitySlot) (precondition : Precondition)
  | loadTrustRoot (envId : EnvId)
  | upsertTrustRoot (envId : EnvId) (doc : TrustRootDocument)
      (precondition : Option Precondition) (journal : Option (MutationJournal V B))
  | updateEnvWithRevenuePolicy (env : Environment) (precondition : Precondition)
      (artifact : RevenuePolicyArtifact) (trustRootPin : Option EnvRevision)
      (journal : Option (MutationJournal V B))
  | createBackup (backup : StoredBackup V) (journal : Option (MutationJournal V B))
  | loadBackup (envId : EnvId) (backupId : String)
  | deleteBackup (envId : EnvId) (backupId : String) (journal : Option (MutationJournal V B))
  | loadEnvSnapshot (envId : EnvId)
  | restoreEnv (envId : EnvId) (snapshot : EnvSnapshot V) (precondition : Precondition)
      (journal : Option (MutationJournal V B))
  | importEnv (envId : EnvId) (snapshot : EnvSnapshot V)
      (journal : Option (MutationJournal V B))
  | recordAudit (envId : EnvId) (eventId : String) (event : V)

namespace StorageCall

/-- What a call returns when it succeeds. -/
def Result : StorageCall V B → Type
  | loadEnv _ => Loaded Environment
  | createEnv .. => EnvRevision
  | updateEnv .. => EnvRevision
  | lookupIdempotency .. => Option (StoredIdempotencyRecord B)
  | recordJournal _ => Unit
  | loadRuntime _ => Option (Loaded EnvironmentRuntime)
  | upsertRuntime .. => EnvRevision
  | loadPackAnswers .. => Option (Loaded V)
  | upsertPackAnswers .. => EnvRevision
  | deletePackAnswers .. => Unit
  | loadTrustRoot _ => Option (Loaded TrustRootDocument)
  | upsertTrustRoot .. => EnvRevision
  | updateEnvWithRevenuePolicy .. => EnvRevision
  | createBackup .. => Unit
  | loadBackup .. => Option (StoredBackup V)
  | deleteBackup .. => Bool
  | loadEnvSnapshot _ => EnvSnapshot V × EnvRevision
  | restoreEnv .. => EnvRevision
  | importEnv .. => EnvRevision
  | recordAudit .. => Unit

abbrev Reply (call : StorageCall V B) : Type := Except StorageError call.Result

end StorageCall

/-- The opt-in retention cap and the clock a transaction sees. -/
structure StoreInput where
  auditCap : Option Nat
  now : Timestamp

def readOnly {τ : Type} (db : Db V B) (reply : Except StorageError τ) :
    Except StorageError (τ × Db V B) :=
  match reply with
  | .ok value => .ok (value, db)
  | .error e => .error e

variable (json : StoreJson V) (ext : Externals)

def transaction (input : StoreInput) (db : Db V B) :
    (call : StorageCall V B) → Except StorageError (call.Result × Db V B)
  | .loadEnv envId => readOnly db (loadEnv json ext db envId)
  | .createEnv env journal => createEnv json ext db env journal input.auditCap input.now
  | .updateEnv env precondition journal =>
    updateEnv json ext db env precondition journal input.auditCap input.now
  | .lookupIdempotency envId key => readOnly db (.ok (lookupIdempotency db envId key))
  | .recordJournal journal =>
    match journalInTx db journal input.auditCap input.now with
    | .ok db => .ok ((), db)
    | .error e => .error e
  | .loadRuntime envId => readOnly db (loadRuntime json db envId)
  | .upsertRuntime runtime precondition => upsertRuntime json db runtime precondition
  | .loadPackAnswers envId slot => readOnly db (loadPackAnswers json db envId slot)
  | .upsertPackAnswers envId slot answers precondition =>
    upsertPackAnswers json db envId slot answers precondition
  | .deletePackAnswers envId slot precondition => deletePackAnswers db envId slot precondition
  | .loadTrustRoot envId => readOnly db (loadTrustRoot json db envId)
  | .upsertTrustRoot envId doc precondition journal =>
    upsertTrustRoot json db envId doc precondition journal input.auditCap input.now
  | .updateEnvWithRevenuePolicy env precondition artifact trustRootPin journal =>
    updateEnvWithRevenuePolicy json ext db env precondition artifact trustRootPin journal
      input.auditCap input.now
  | .createBackup backup journal => createBackup db backup journal input.auditCap input.now
  | .loadBackup envId backupId => readOnly db (.ok (loadBackup db envId backupId))
  | .deleteBackup envId backupId journal =>
    deleteBackup db envId backupId journal input.auditCap input.now
  | .loadEnvSnapshot envId => readOnly db (loadEnvSnapshot db envId)
  | .restoreEnv envId snapshot precondition journal =>
    restoreEnv json ext db envId snapshot precondition journal input.auditCap input.now
  | .importEnv envId snapshot journal =>
    importEnv json ext db envId snapshot journal input.auditCap input.now
  | .recordAudit envId eventId event =>
    recordAudit db envId eventId event input.auditCap input.now

def execute (input : StoreInput) (db : Db V B) (call : StorageCall V B) : call.Reply × Db V B :=
  match transaction json ext input db call with
  | .ok (result, after) => (.ok result, after)
  | .error e => (.error e, db)

/-- Runs of the bare store: any calls with any arguments, in any order. -/
def store : System (Db V B) (StoreInput × StorageCall V B) where
  step := fun db action => (execute json ext action.1 db action.2).2
  allowed := fun _ _ => True

theorem execute_cases (input : StoreInput) (db : Db V B) (call : StorageCall V B) :
    (∃ result, transaction json ext input db call =
        .ok (result, (execute json ext input db call).2) ∧
      (execute json ext input db call).1 = .ok result) ∨
    (∃ e, (execute json ext input db call).1 = .error e ∧
      (execute json ext input db call).2 = db) := by
  unfold execute
  cases outcome : transaction json ext input db call with
  | ok committed => exact .inl ⟨committed.1, rfl, rfl⟩
  | error e => exact .inr ⟨e, rfl, rfl⟩

end GreenticDeployer.Store
