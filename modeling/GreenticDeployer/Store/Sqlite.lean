import GreenticDeployer.Lib.Results
import GreenticDeployer.Store.Journal

/-!
# The SQLite backend

Each storage method is one transaction. A write returns the database it commits,
or the error on which everything rolls back; the pool of one connection runs the
transactions one after another.
-/

set_option maxHeartbeats 200000

namespace GreenticDeployer.Store

open Spec Engine Lib

variable {V B : Type} (json : StoreJson V) (ext : Externals)

/-- `generation + 1`, written as a signed 64-bit column under
`CHECK (generation > 0)`: the wrapped value is refused. -/
def nextGeneration (generation : Nat) : Except StorageError Nat :=
  if generation + 1 < 2 ^ 63 then .ok (generation + 1) else .error (.backend .check)

/-- A document as the value it is written as. -/
def serializeForWrite {α : Type} (codec : JsonCodec V α) (value : α) : Except StorageError V :=
  match codec.toValue value with
  | .error detail => .error (.json detail)
  | .ok data => .ok data

/-- The row a value is stored as: etag and integrity digest are the same hash. -/
def docRow (data : V) (generation : Nat) : DocRow V where
  generation := generation
  etag := ⟨json.sha256Of data⟩
  data := data
  integrityDigest := json.sha256Of data

def verifyIntegrity (envId : EnvId) (row : DocRow V) : Except StorageError Unit :=
  ensure (json.sha256Of row.data = row.integrityDigest)
    (.integrityMismatch envId row.integrityDigest (json.sha256Of row.data))

def decode {α : Type} (codec : JsonCodec V α) (data : V) : Except StorageError α :=
  match codec.fromValue data with
  | .error detail => .error (.json detail)
  | .ok value => .ok value

def liftSpec : Except SpecError Unit → Except StorageError Unit
  | .error e => .error (.spec e)
  | .ok () => .ok ()

def checkPrecondition (envId : EnvId) (precondition : Precondition) (revision : EnvRevision) :
    Except StorageError Unit :=
  match precondition.check revision.etag revision.generation with
  | .error e => .error (.fromPrecondition envId e)
  | .ok () => .ok ()

def validateEnvironment (env : Environment) : Except StorageError Unit := do
  liftSpec (checkSchema SchemaVersion.environmentV1 env.schema)
  liftSpec (env.validate ext)

/-- `REFERENCES environments(env_id)`, as an insert checks it. -/
def requireEnv (db : Db V B) (envId : EnvId) : Except StorageError Unit :=
  ensure (envId ∈ db.environments) (.backend .foreignKey)

def journal? (db : Db V B) (journal : Option (MutationJournal V B)) (auditCap : Option Nat)
    (now : Timestamp) : Except StorageError (Db V B) :=
  match journal with
  | none => .ok db
  | some journal => journalInTx db journal auditCap now

def loadEnv (db : Db V B) (envId : EnvId) : Except StorageError (Loaded Environment) :=
  match db.environments.lookup envId with
  | none => .error (.notFound envId)
  | some row => do
    verifyIntegrity json envId row
    let env ← decode json.environment row.data
    ensure (env.environmentId = envId) (.envIdMismatch envId env.environmentId)
    liftSpec (env.validate ext)
    return ⟨env, row.revision⟩

/-- `ON CONFLICT (env_id) DO NOTHING`, a conflict reported with the generation
it met. -/
def insertEnv (db : Db V B) (envId : EnvId) (env : Environment) :
    Except StorageError (EnvRevision × Db V B) :=
  match serializeForWrite json.environment env with
  | .error e => .error e
  | .ok data =>
    match db.environments.lookup envId with
    | some row => .error (.alreadyExists envId row.generation)
    | none =>
      let row := docRow json data 1
      .ok (row.revision, db.putEnv envId row)

def createEnv (db : Db V B) (env : Environment) (journal : Option (MutationJournal V B))
    (auditCap : Option Nat) (now : Timestamp) : Except StorageError (EnvRevision × Db V B) := do
  validateEnvironment ext env
  let (revision, db) ← insertEnv json db env.environmentId env
  let db ← journal? db journal auditCap now
  return (revision, db)

def updateEnvInTx (db : Db V B) (env : Environment) (precondition : Precondition) :
    Except StorageError (EnvRevision × Db V B) := do
  validateEnvironment ext env
  ensure precondition.isConditional .preconditionRequired
  let data ← serializeForWrite json.environment env
  match db.environments.lookup env.environmentId with
  | none => throw (.notFound env.environmentId)
  | some current =>
    checkPrecondition env.environmentId precondition current.revision
    let generation ← nextGeneration current.generation
    let row := docRow json data generation
    return (row.revision, db.putEnv env.environmentId row)

def updateEnv (db : Db V B) (env : Environment) (precondition : Precondition)
    (journal : Option (MutationJournal V B)) (auditCap : Option Nat) (now : Timestamp) :
    Except StorageError (EnvRevision × Db V B) := do
  let (revision, db) ← updateEnvInTx json ext db env precondition
  let db ← journal? db journal auditCap now
  return (revision, db)

def lookupIdempotency (db : Db V B) (envId : EnvId) (key : String) :
    Option (StoredIdempotencyRecord B) :=
  (db.idempotencyLedger.find? fun row => row.isFor envId key).map
    LedgerRow.toStoredIdempotencyRecord

/-- The compare-and-set both document sidecars share: an absent row admits only
the unconditional first write, a present one only a matching pin. -/
def casUpsert (current : Option (DocRow V)) (envId : EnvId) (precondition : Option Precondition)
    (insertable : Except StorageError Unit) : Except StorageError Nat :=
  match current with
  | none =>
    if precondition.any (·.isConditional) then .error (.notFound envId)
    else insertable.map fun _ => 1
  | some row =>
    match precondition with
    | none => .error .preconditionRequired
    | some pin => do
      checkPrecondition envId pin row.revision
      nextGeneration row.generation

def loadRuntime (db : Db V B) (envId : EnvId) :
    Except StorageError (Option (Loaded EnvironmentRuntime)) :=
  match db.environmentRuntimes.lookup envId with
  | none => .ok none
  | some row => do
    verifyIntegrity json envId row
    let runtime ← decode json.runtime row.data
    ensure (runtime.environmentId = envId) (.envIdMismatch envId runtime.environmentId)
    liftSpec (checkSchema SchemaVersion.environmentRuntimeV1 runtime.schema)
    return some ⟨runtime, row.revision⟩

def upsertRuntime (db : Db V B) (runtime : EnvironmentRuntime)
    (precondition : Option Precondition) : Except StorageError (EnvRevision × Db V B) := do
  liftSpec (checkSchema SchemaVersion.environmentRuntimeV1 runtime.schema)
  let data ← serializeForWrite json.runtime runtime
  let envId := runtime.environmentId
  let generation ← casUpsert (db.environmentRuntimes.lookup envId) envId precondition
    (requireEnv db envId)
  let row := docRow json data generation
  return (row.revision, db.putRuntime envId row)

def loadTrustRoot (db : Db V B) (envId : EnvId) :
    Except StorageError (Option (Loaded TrustRootDocument)) :=
  match db.trustRoots.lookup envId with
  | none => .ok none
  | some row => do
    verifyIntegrity json envId row
    let doc ← decode json.trustRoot row.data
    liftSpec (checkSchema SchemaVersion.trustRootV1 ⟨doc.schema⟩)
    return some ⟨doc, row.revision⟩

def upsertTrustRoot (db : Db V B) (envId : EnvId) (doc : TrustRootDocument)
    (precondition : Option Precondition) (journal : Option (MutationJournal V B))
    (auditCap : Option Nat) (now : Timestamp) :
    Except StorageError (EnvRevision × Db V B) := do
  liftSpec (checkSchema SchemaVersion.trustRootV1 ⟨doc.schema⟩)
  let data ← serializeForWrite json.trustRoot doc
  let generation ← casUpsert (db.trustRoots.lookup envId) envId precondition (requireEnv db envId)
  let row := docRow json data generation
  let db ← journal? (db.putTrustRoot envId row) journal auditCap now
  return (row.revision, db)

def loadPackAnswers (db : Db V B) (envId : EnvId) (slot : CapabilitySlot) :
    Except StorageError (Option (Loaded V)) :=
  match db.packAnswers.lookup (envId, slot.asStr) with
  | none => .ok none
  | some row =>
    if row.deleted then .ok none
    else do
      verifyIntegrity json envId row.toDocRow
      return some ⟨row.data, row.revision⟩

/-- The generation an upsert writes. A tombstone admits only an unconditional
write, and the new incarnation continues its count. -/
def answersUpsertGeneration (current : Option (AnswersRow V)) (envId : EnvId)
    (precondition : Option Precondition) (insertable : Except StorageError Unit) :
    Except StorageError Nat :=
  match current with
  | none =>
    if precondition.any (·.isConditional) then .error (.notFound envId)
    else insertable.map fun _ => 1
  | some row =>
    if row.deleted then
      if precondition.any (·.isConditional) then .error (.notFound envId)
      else nextGeneration row.generation
    else
      match precondition with
      | none => .error .preconditionRequired
      | some pin => do
        checkPrecondition envId pin row.revision
        nextGeneration row.generation

def upsertPackAnswers (db : Db V B) (envId : EnvId) (slot : CapabilitySlot) (answers : V)
    (precondition : Option Precondition) : Except StorageError (EnvRevision × Db V B) := do
  let generation ← answersUpsertGeneration (db.packAnswers.lookup (envId, slot.asStr)) envId
    precondition (requireEnv db envId)
  let row := docRow json answers generation
  return (row.revision, db.putAnswers envId slot.asStr ⟨row, false⟩)

/-- A tombstone keeps the row's etag and content. -/
def tombstone (row : AnswersRow V) (generation : Nat) : AnswersRow V :=
  { row with generation := generation, deleted := true }

def deletePackAnswers (db : Db V B) (envId : EnvId) (slot : CapabilitySlot)
    (precondition : Precondition) : Except StorageError (Unit × Db V B) :=
  if ¬ precondition.isConditional then .error .preconditionRequired
  else
    match db.packAnswers.lookup (envId, slot.asStr) with
    | none => .ok ((), db)
    | some row =>
      if row.deleted then .ok ((), db)
      else do
        checkPrecondition envId precondition row.revision
        let generation ← nextGeneration row.generation
        return ((), db.putAnswers envId slot.asStr (tombstone row generation))

/-- `version INTEGER CHECK (version > 0)`, bound from an unsigned 64-bit value. -/
def checkVersion (version : Nat) : Except StorageError Unit :=
  ensure (0 < version ∧ version < 2 ^ 63) (.backend .check)

def RevenuePolicyArtifact.key (envId : EnvId) (artifact : RevenuePolicyArtifact) : PolicyKey :=
  ⟨envId, artifact.bundleId, artifact.customerId, artifact.version⟩

def updateEnvWithRevenuePolicy (db : Db V B) (env : Environment) (precondition : Precondition)
    (artifact : RevenuePolicyArtifact) (trustRootPin : Option EnvRevision)
    (journal : Option (MutationJournal V B)) (auditCap : Option Nat) (now : Timestamp) :
    Except StorageError (EnvRevision × Db V B) := do
  let envId := env.environmentId
  ensure ((db.trustRoots.lookup envId).map DocRow.revision = trustRootPin)
    (.trustRootChanged envId)
  checkVersion artifact.version
  requireEnv db envId
  let (revision, db) ← updateEnvInTx json ext (db.putPolicy (artifact.key envId) artifact) env
    precondition
  let db ← journal? db journal auditCap now
  return (revision, db)

def createBackup (db : Db V B) (backup : StoredBackup V) (journal : Option (MutationJournal V B))
    (auditCap : Option Nat) (now : Timestamp) : Except StorageError (Unit × Db V B) :=
  let envId := backup.manifest.envId
  if db.backups.keys.countP (fun key => key.1 = envId) ≥ maxBackupsPerEnv then
    .error (.backupLimitReached envId maxBackupsPerEnv)
  else if (envId, backup.manifest.backupId) ∈ db.backups then .error (.backend .unique)
  else do
    let db ← journal? (db.putBackup envId backup) journal auditCap now
    return ((), db)

def loadBackup (db : Db V B) (envId : EnvId) (backupId : String) : Option (StoredBackup V) :=
  db.backups.lookup (envId, backupId)

def deleteBackup (db : Db V B) (envId : EnvId) (backupId : String)
    (journal : Option (MutationJournal V B)) (auditCap : Option Nat) (now : Timestamp) :
    Except StorageError (Bool × Db V B) :=
  if (envId, backupId) ∈ db.backups then do
    let db ← journal? (db.dropBackup envId backupId) journal auditCap now
    return (true, db)
  else .ok (false, db)

def liveAnswers (db : Db V B) (envId : EnvId) : List (String × V) :=
  db.packAnswers.entries.filterMap fun ⟨key, row⟩ =>
    if key.1 = envId ∧ row.deleted = false then some (key.2, row.data) else none

def BTreeMap.insert (key : String) (value : V) (entries : List (String × V)) :
    List (String × V) :=
  entries.filter (fun entry => entry.1 < key) ++
    (key, value) :: entries.filter fun entry => key < entry.1

theorem BTreeMap.insert_ascending (key : String) (value : V) (entries : List (String × V))
    (ascending : (entries.map Prod.fst).Pairwise (· < ·)) :
    ((BTreeMap.insert key value entries).map Prod.fst).Pairwise (· < ·) := by
  have sublist : ∀ keep : String × V → Bool,
      ((entries.filter keep).map Prod.fst).Pairwise (· < ·) := fun keep =>
    ascending.sublist (List.filter_sublist.map _)
  simp only [BTreeMap.insert, List.map_append, List.map_cons, List.pairwise_append,
    List.pairwise_cons]
  refine ⟨sublist _, ⟨?_, sublist _⟩, ?_⟩
  · intro other member
    obtain ⟨entry, kept, rfl⟩ := List.mem_map.mp member
    simpa using (List.mem_filter.mp kept).2
  · intro low lowMember high highMember
    obtain ⟨entry, kept, rfl⟩ := List.mem_map.mp lowMember
    have below : entry.1 < key := by simpa using (List.mem_filter.mp kept).2
    rcases List.mem_cons.mp highMember with rfl | above
    · exact below
    · obtain ⟨next, keptNext, rfl⟩ := List.mem_map.mp above
      have : key < next.1 := by simpa using (List.mem_filter.mp keptNext).2
      exact String.lt_trans below this

def BTreeMap.ofList : List (String × V) → BTreeMap V
  | [] => BTreeMap.empty
  | (key, value) :: rest =>
    let map := BTreeMap.ofList rest
    ⟨BTreeMap.insert key value map.entries, insert_ascending _ _ _ map.ascending⟩

/-- One transaction reads the environment, its sidecars and its audit history. -/
def loadEnvSnapshot (db : Db V B) (envId : EnvId) :
    Except StorageError (EnvSnapshot V × EnvRevision) :=
  match db.environments.lookup envId with
  | none => .error (.notFound envId)
  | some row =>
    .ok ({
      environment := row.data
      runtime := (db.environmentRuntimes.lookup envId).map (·.data)
      packAnswers := BTreeMap.ofList (liveAnswers db envId)
      auditLog := (db.auditLog.rows.filter fun row => row.envId = envId).map
        AuditRow.toAuditEntry
      auditRetention := db.auditRetention.lookup envId }, row.revision)

def restoredRuntimeGeneration (db : Db V B) (envId : EnvId) : Except StorageError Nat :=
  match db.environmentRuntimes.lookup envId with
  | some row => nextGeneration row.generation
  | none => (requireEnv db envId).map fun _ => 1

def restoreRuntime (db : Db V B) (envId : EnvId) (runtime : Option V) :
    Except StorageError (Table EnvId (DocRow V)) :=
  match runtime with
  | none => .ok (db.environmentRuntimes.erase envId)
  | some data => do
    let generation ← restoredRuntimeGeneration db envId
    return db.environmentRuntimes.insert envId (docRow json data generation)

/-- One captured slot: continue the generation of a row that exists, live or
tombstoned, else a first incarnation. -/
def restoreCapturedAnswers (db : Db V B) (envId : EnvId)
    (answers : Table (EnvId × String) (AnswersRow V)) (slot : String) (data : V) :
    Except StorageError (Table (EnvId × String) (AnswersRow V)) :=
  match db.packAnswers.lookup (envId, slot) with
  | some row => do
    let generation ← nextGeneration row.generation
    return answers.insert (envId, slot) ⟨docRow json data generation, false⟩
  | none => do
    requireEnv db envId
    return answers.insert (envId, slot) ⟨docRow json data 1, false⟩

/-- One row that existed: a live one the snapshot lacks becomes a tombstone. -/
def restoreMissingAnswers (envId : EnvId) (captured : List String)
    (answers : Table (EnvId × String) (AnswersRow V)) (key : EnvId × String)
    (row : AnswersRow V) : Except StorageError (Table (EnvId × String) (AnswersRow V)) :=
  if key.1 = envId ∧ row.deleted = false ∧ key.2 ∉ captured then do
    let generation ← nextGeneration row.generation
    return answers.insert key (tombstone row generation)
  else .ok answers

def restoreAnswers (db : Db V B) (envId : EnvId) (captured : BTreeMap V) :
    Except StorageError (Table (EnvId × String) (AnswersRow V)) := do
  let answers ← captured.entries.foldlM
    (fun answers entry => restoreCapturedAnswers json db envId answers entry.1 entry.2)
    db.packAnswers
  db.packAnswers.entries.foldlM
    (fun answers entry => restoreMissingAnswers envId captured.keys answers entry.1 entry.2)
    answers

def restoreEnv (db : Db V B) (envId : EnvId) (snapshot : EnvSnapshot V)
    (precondition : Precondition) (journal : Option (MutationJournal V B))
    (auditCap : Option Nat) (now : Timestamp) : Except StorageError (EnvRevision × Db V B) := do
  let env ← decode json.environment snapshot.environment
  validateEnvironment ext env
  let (revision, db) ← updateEnvInTx json ext db env precondition
  let runtimes ← restoreRuntime json db envId snapshot.runtime
  let answers ← restoreAnswers json db envId snapshot.packAnswers
  let audit := replayAuditInTx (auditState db) envId snapshot.auditLog snapshot.auditRetention
  let db ← journal? (withAudit (db.withSidecars runtimes answers) audit) journal auditCap now
  return (revision, db)

def importAnswersRow (envId : EnvId) (answers : Table (EnvId × String) (AnswersRow V))
    (slot : String) (data : V) : Except StorageError (Table (EnvId × String) (AnswersRow V)) :=
  if (envId, slot) ∈ answers then .error (.backend .unique)
  else .ok (answers.insert (envId, slot) ⟨docRow json data 1, false⟩)

/-- The captured history under fresh ids, the captured watermark verbatim. -/
def importAudit (state : AuditState V) (envId : EnvId) (snapshot : EnvSnapshot V) :
    Except StorageError (AuditState V) := do
  let log ← snapshot.auditLog.foldlM (fun log entry => importAuditEntry log envId entry) state.log
  match snapshot.auditRetention with
  | none => return ⟨log, state.retention⟩
  | some captured =>
    ensure (envId ∉ state.retention) (.backend .unique)
    return ⟨log, state.retention.insert envId captured⟩

def importRuntime (db : Db V B) (envId : EnvId) (runtime : Option V) :
    Except StorageError (Table EnvId (DocRow V)) :=
  match runtime with
  | none => .ok db.environmentRuntimes
  | some data =>
    if envId ∈ db.environmentRuntimes then .error (.backend .unique)
    else .ok (db.environmentRuntimes.insert envId (docRow json data 1))

def importEnv (db : Db V B) (envId : EnvId) (snapshot : EnvSnapshot V)
    (journal : Option (MutationJournal V B)) (auditCap : Option Nat) (now : Timestamp) :
    Except StorageError (EnvRevision × Db V B) := do
  let env ← decode json.environment snapshot.environment
  validateEnvironment ext env
  ensure (env.environmentId = envId) (.envIdMismatch envId env.environmentId)
  let (revision, db) ← insertEnv json db envId env
  let runtimes ← importRuntime json db envId snapshot.runtime
  let answers ← snapshot.packAnswers.entries.foldlM
    (fun answers entry => importAnswersRow json envId answers entry.1 entry.2) db.packAnswers
  let audit ← importAudit (auditState db) envId snapshot
  let db ← journal? (withAudit (db.withSidecars runtimes answers) audit) journal auditCap now
  return (revision, db)

def recordAudit (db : Db V B) (envId : EnvId) (eventId : String) (event : V)
    (auditCap : Option Nat) (now : Timestamp) : Except StorageError (Unit × Db V B) := do
  let state ← appendAndPrune (auditState db) envId eventId event auditCap now
  return ((), withAudit db state)

/-- The startup sweep: every environment over the cap is brought down to it. -/
def reconcileAuditRetention (db : Db V B) (auditCap : Option Nat) (now : Timestamp) : Db V B :=
  match auditCap with
  | none => db
  | some cap =>
    let envIds := (db.auditLog.rows.map (·.envId)).dedup
    withAudit db (envIds.foldl (fun state envId => pruneAuditLog state envId cap now)
      (auditState db))

end GreenticDeployer.Store
