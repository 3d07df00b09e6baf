import GreenticDeployer.Spec.Remote
import GreenticDeployer.Engine.InlineStash
import Mathlib.Data.List.AList
import Mathlib.Tactic.Simps.Basic

/-!
# The tables of the operator store

One table per `CREATE TABLE` of the migrations. A table with a primary key is an
association list without repeated keys; the two append-ordered tables, the
replay ledger and the audit log, keep their rows in row-id order. `V` is the
type of JSON values.
-/

set_option maxHeartbeats 200000

namespace GreenticDeployer.Store

open Spec Engine

abbrev Table (κ ρ : Type) := AList fun _ : κ => ρ

section Tables

variable {κ ρ : Type} [DecidableEq κ]

theorem Table.lookup_insert_cases (table : Table κ ρ) (key other : κ) (row : ρ) :
    (table.insert key row).lookup other = table.lookup other ∨
      other = key ∧ (table.insert key row).lookup other = some row := by
  by_cases same : other = key
  · subst same
    exact .inr ⟨rfl, AList.lookup_insert _⟩
  · exact .inl (AList.lookup_insert_ne same)

theorem Table.forall_insert {table : Table κ ρ} {P : κ → ρ → Prop}
    (all : ∀ key row, table.lookup key = some row → P key row) {key : κ} {row : ρ}
    (new : P key row) (other : κ) (found : ρ)
    (present : (table.insert key row).lookup other = some found) : P other found := by
  rcases Table.lookup_insert_cases table key other row with same | ⟨rfl, written⟩
  · exact all other found (same.symm.trans present)
  · cases written.symm.trans present
    exact new

theorem Table.forall_erase {table : Table κ ρ} {P : κ → ρ → Prop}
    (all : ∀ key row, table.lookup key = some row → P key row) (key other : κ) (found : ρ)
    (present : (table.erase key).lookup other = some found) : P other found := by
  by_cases same : other = key
  · rw [same, AList.lookup_erase] at present
    cases present
  · rw [AList.lookup_erase_ne same] at present
    exact all other found present

end Tables

/-- The wall clock as SQLite prints it. -/
abbrev Timestamp := String

/-- What makes the driver refuse a statement. -/
inductive Constraint where
  | check
  | foreignKey
  | unique
  | sequenceFull
  deriving DecidableEq, Repr

inductive StorageError where
  | notFound (envId : EnvId)
  | alreadyExists (envId : EnvId) (generation : Nat)
  | preconditionRequired
  | preconditionFailed (envId : EnvId) (conflict : ConcurrencyConflict)
  | integrityMismatch (envId : EnvId) (stored recomputed : String)
  | envIdMismatch (keyed payload : EnvId)
  | trustRootChanged (envId : EnvId)
  | idempotencyKeyCommitted (envId : EnvId) (key : String)
  | backupLimitReached (envId : EnvId) (limit : Nat)
  | spec (error : SpecError)
  | json (detail : String)
  | backend (constraint : Constraint)
  deriving DecidableEq, Repr

def StorageError.fromPrecondition (envId : EnvId) : PreconditionError → StorageError
  | .required => .preconditionRequired
  | .conflict conflict => .preconditionFailed envId conflict

structure EnvRevision where
  generation : Nat
  etag : StateEtag
  deriving DecidableEq, Repr

structure Loaded (α : Type) where
  value : α
  revision : EnvRevision
  deriving DecidableEq

/-- A row of `environments`, `environment_runtimes` or `trust_roots`. -/
structure DocRow (V : Type) where
  generation : Nat
  etag : StateEtag
  data : V
  integrityDigest : String

def DocRow.revision {V : Type} (row : DocRow V) : EnvRevision := ⟨row.generation, row.etag⟩

/-- A row of `pack_answers`: a document row that a delete only marks. -/
structure AnswersRow (V : Type) extends DocRow V where
  deleted : Bool

structure AuditEntry (V : Type) where
  id : Int
  eventId : String
  recordedAt : Timestamp
  event : V

/-- A row of `audit_log`. -/
structure AuditRow (V : Type) extends AuditEntry V where
  envId : EnvId

structure AuditRetention where
  prunedThroughId : Int
  prunedTotal : Int
  policyMaxRows : Int
  lastPrunedAt : Timestamp
  deriving DecidableEq, Repr

structure EnvSnapshot (V : Type) where
  environment : V
  runtime : Option V
  packAnswers : BTreeMap V
  auditLog : List (AuditEntry V)
  auditRetention : Option AuditRetention

structure StoredBackup (V : Type) where
  manifest : BackupManifest
  state : V
  snapshotDigest : String

structure RevenuePolicyArtifact where
  bundleId : BundleId
  customerId : CustomerId
  version : Nat
  policyRef : String
  doc : RevenuePolicyDocument
  envelope : String
  docSha256 : String
  keyId : String
  deriving DecidableEq

structure PolicyKey where
  envId : EnvId
  bundleId : BundleId
  customerId : CustomerId
  version : Nat
  deriving DecidableEq, Repr

/-- What a committed mutation leaves beside the mutated resource. `B` is the
type of response bodies. -/
structure MutationJournal (V B : Type) where
  envId : EnvId
  idempotencyKey : String
  operation : String
  requestFingerprint : String
  responseStatus : Nat
  responseBody : B
  auditEvent : V
  auditEventId : String

structure StoredIdempotencyRecord (B : Type) where
  operation : String
  requestFingerprint : String
  responseStatus : Nat
  responseBody : B

structure LedgerRow (B : Type) extends StoredIdempotencyRecord B where
  envId : EnvId
  idempotencyKey : String

/-- The audit log in id order. Ids are unique because the order is strict. -/
structure AuditLog (V : Type) where
  rows : List (AuditRow V)
  ascending : (rows.map (·.id)).Pairwise (· < ·)
  /-- `sqlite_sequence`: no id the table ever used is above it. -/
  sequence : Int
  covered : ∀ row ∈ rows, row.id ≤ sequence

structure Db (V B : Type) where
  environments : Table EnvId (DocRow V)
  environmentRuntimes : Table EnvId (DocRow V)
  packAnswers : Table (EnvId × String) (AnswersRow V)
  trustRoots : Table EnvId (DocRow V)
  revenuePolicies : Table PolicyKey RevenuePolicyArtifact
  idempotencyLedger : List (LedgerRow B)
  auditLog : AuditLog V
  auditRetention : Table EnvId AuditRetention
  backups : Table (EnvId × String) (StoredBackup V)

def Db.empty {V B : Type} : Db V B where
  environments := ∅
  environmentRuntimes := ∅
  packAnswers := ∅
  trustRoots := ∅
  revenuePolicies := ∅
  idempotencyLedger := []
  auditLog := ⟨[], List.Pairwise.nil, 0, by simp⟩
  auditRetention := ∅
  backups := ∅

namespace Db

variable {V B : Type}

-- One writer for each keyed table; the projections say what it leaves alone.

@[simps]
def putEnv (db : Db V B) (envId : EnvId) (row : DocRow V) : Db V B :=
  { db with environments := db.environments.insert envId row }

@[simps]
def putRuntime (db : Db V B) (envId : EnvId) (row : DocRow V) : Db V B :=
  { db with environmentRuntimes := db.environmentRuntimes.insert envId row }

@[simps]
def putAnswers (db : Db V B) (envId : EnvId) (slot : String) (row : AnswersRow V) : Db V B :=
  { db with packAnswers := db.packAnswers.insert (envId, slot) row }

@[simps]
def putTrustRoot (db : Db V B) (envId : EnvId) (row : DocRow V) : Db V B :=
  { db with trustRoots := db.trustRoots.insert envId row }

@[simps]
def putPolicy (db : Db V B) (key : PolicyKey) (artifact : RevenuePolicyArtifact) : Db V B :=
  { db with revenuePolicies := db.revenuePolicies.insert key artifact }

@[simps]
def putBackup (db : Db V B) (envId : EnvId) (backup : StoredBackup V) : Db V B :=
  { db with backups := db.backups.insert (envId, backup.manifest.backupId) backup }

@[simps]
def dropBackup (db : Db V B) (envId : EnvId) (backupId : String) : Db V B :=
  { db with backups := db.backups.erase (envId, backupId) }

/-- The sidecar tables a restore or an import replaces. -/
@[simps]
def withSidecars (db : Db V B) (runtimes : Table EnvId (DocRow V))
    (answers : Table (EnvId × String) (AnswersRow V)) : Db V B :=
  { db with environmentRuntimes := runtimes, packAnswers := answers }

end Db

def maxLedgerRowsPerEnv : Nat := 4096
def maxBackupsPerEnv : Nat := 256

/-- The libraries the store calls: `serde_json` on the documents it keeps, and
the SHA-256 digest of a value's canonical JSON. -/
structure StoreJson (V : Type) where
  sha256Of : V → String
  environment : JsonCodec V Environment
  runtime : JsonCodec V EnvironmentRuntime
  trustRoot : JsonCodec V TrustRootDocument
  snapshot : JsonCodec V (EnvSnapshot V)
  auditEvent : AuditEvent → V
  /-- The byte length of a value's compact text. -/
  textLength : V → Nat

end GreenticDeployer.Store
