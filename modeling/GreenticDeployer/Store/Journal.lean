import GreenticDeployer.Store.Tables

/-!
# The replay ledger and the audit log

The statements that append to the two ordered tables inside a caller's
transaction: the ledger row of a committed mutation with the eviction of the
oldest rows, the audit row with the opt-in retention prune, and the replay of a
captured audit history.
-/

set_option maxHeartbeats 200000

namespace GreenticDeployer.Store

open Spec

variable {V B : Type}

namespace AuditLog

def maxRowId : Int := 2 ^ 63 - 1

def hasEvent (log : AuditLog V) (eventId : String) : Bool :=
  log.rows.any fun row => row.eventId = eventId

/-- `INSERT` without an id: the table-wide sequence numbers the row. -/
def push (log : AuditLog V) (envId : EnvId) (eventId : String) (recordedAt : Timestamp)
    (event : V) : AuditLog V where
  rows := log.rows ++ [⟨⟨log.sequence + 1, eventId, recordedAt, event⟩, envId⟩]
  ascending := by
    rw [List.map_append, List.pairwise_append]
    refine ⟨log.ascending, List.pairwise_singleton _ _, ?_⟩
    intro id member fresh new
    obtain ⟨row, inRows, rfl⟩ := List.mem_map.mp member
    have := log.covered row inRows
    simp only [List.map_cons, List.map_nil, List.mem_singleton] at new
    omega
  sequence := log.sequence + 1
  covered := by
    intro row member
    rcases List.mem_append.mp member with old | new
    · have := log.covered row old
      omega
    · rw [List.mem_singleton.mp new]

/-- A row number taken by an insert that is then ignored. -/
def burn (log : AuditLog V) (id : Int) : AuditLog V where
  rows := log.rows
  ascending := log.ascending
  sequence := max log.sequence id
  covered := fun row member => le_max_of_le_left (log.covered row member)

def place (log : AuditLog V) (row : AuditRow V) : AuditLog V where
  rows := log.rows.filter (fun other => other.id < row.id) ++
    row :: log.rows.filter fun other => row.id < other.id
  ascending := by
    have sublist : ∀ keep : AuditRow V → Bool,
        ((log.rows.filter keep).map (·.id)).Pairwise (· < ·) := fun keep =>
      log.ascending.sublist (List.filter_sublist.map _)
    simp only [List.map_append, List.map_cons, List.pairwise_append, List.pairwise_cons]
    refine ⟨sublist _, ⟨?_, sublist _⟩, ?_⟩
    · intro id member
      obtain ⟨other, kept, rfl⟩ := List.mem_map.mp member
      simpa using (List.mem_filter.mp kept).2
    · intro low lowMember high highMember
      obtain ⟨other, kept, rfl⟩ := List.mem_map.mp lowMember
      have below : other.id < row.id := by simpa using (List.mem_filter.mp kept).2
      rcases List.mem_cons.mp highMember with rfl | above
      · exact below
      · obtain ⟨next, keptNext, rfl⟩ := List.mem_map.mp above
        have : row.id < next.id := by simpa using (List.mem_filter.mp keptNext).2
        omega
  sequence := max log.sequence row.id
  covered := by
    intro other member
    rcases List.mem_append.mp member with low | high
    · exact le_max_of_le_left (log.covered other (List.mem_of_mem_filter low))
    · rcases List.mem_cons.mp high with rfl | above
      · exact le_max_right _ _
      · exact le_max_of_le_left (log.covered other (List.mem_of_mem_filter above))

def restrict (log : AuditLog V) (keep : AuditRow V → Bool) : AuditLog V where
  rows := log.rows.filter keep
  ascending := log.ascending.sublist (List.filter_sublist.map _)
  sequence := log.sequence
  covered := fun row member => log.covered row (List.mem_of_mem_filter member)

end AuditLog

def appendAudit (log : AuditLog V) (envId : EnvId) (eventId : String) (recordedAt : Timestamp)
    (event : V) : Except StorageError (AuditLog V) :=
  if log.sequence ≥ AuditLog.maxRowId then .error (.backend .sequenceFull)
  else if log.hasEvent eventId then .error (.backend .unique)
  else .ok (log.push envId eventId recordedAt event)

/-- `INSERT OR IGNORE` without an id. An ignored row still takes its number. -/
def importAuditEntry (log : AuditLog V) (envId : EnvId) (entry : AuditEntry V) :
    Except StorageError (AuditLog V) :=
  if log.sequence ≥ AuditLog.maxRowId then .error (.backend .sequenceFull)
  else if log.hasEvent entry.eventId then .ok (log.burn (log.sequence + 1))
  else .ok (log.push envId entry.eventId entry.recordedAt entry.event)

/-- `INSERT OR IGNORE` with the captured id. -/
def replayAuditEntry (log : AuditLog V) (envId : EnvId) (entry : AuditEntry V) : AuditLog V :=
  if log.hasEvent entry.eventId ∨ log.rows.any fun row => row.id = entry.id then
    log.burn entry.id
  else log.place ⟨entry, envId⟩

structure AuditState (V : Type) where
  log : AuditLog V
  retention : Table EnvId AuditRetention

/-- The id of the newest row beyond the cap, if the environment is over it. -/
def pruneCutoff (log : AuditLog V) (envId : EnvId) (cap : Nat) : Option Int :=
  ((log.rows.filter fun row => row.envId = envId).map (·.id)).reverse[cap]?

def pruneAuditLog (state : AuditState V) (envId : EnvId) (cap : Nat) (now : Timestamp) :
    AuditState V :=
  match pruneCutoff state.log envId cap with
  | none => state
  | some through =>
    let forget := fun row : AuditRow V => decide (row.envId = envId ∧ row.id ≤ through)
    let pruned : Int := state.log.rows.countP forget
    let total := match state.retention.lookup envId with
      | none => pruned
      | some live => live.prunedTotal + pruned
    { log := state.log.restrict fun row => !forget row
      retention := state.retention.insert envId ⟨through, total, cap, now⟩ }

/-- Rows at or below the live watermark stay forgotten; a captured watermark is
reconciled by `max`. -/
def replayAuditInTx (state : AuditState V) (envId : EnvId) (auditLog : List (AuditEntry V))
    (auditRetention : Option AuditRetention) : AuditState V :=
  let livePrunedThrough := match state.retention.lookup envId with
    | some live => live.prunedThroughId
    | none => 0
  let eligible := auditLog.filter fun entry => livePrunedThrough < entry.id
  let log := eligible.foldl (fun log entry => replayAuditEntry log envId entry) state.log
  let retention := match auditRetention with
    | none => state.retention
    | some captured =>
      let merged := match state.retention.lookup envId with
        | none => captured
        | some live => { captured with
            prunedThroughId := max live.prunedThroughId captured.prunedThroughId
            prunedTotal := max live.prunedTotal captured.prunedTotal }
      state.retention.insert envId merged
  ⟨log, retention⟩

def LedgerRow.isFor (row : LedgerRow B) (envId : EnvId) (key : String) : Bool :=
  row.envId = envId ∧ row.idempotencyKey = key

/-- Drop the first `excess` rows of one environment, oldest first. -/
def dropOldest (envId : EnvId) : Nat → List (LedgerRow B) → List (LedgerRow B)
  | 0, rows => rows
  | _ + 1, [] => []
  | excess + 1, row :: rest =>
    if row.envId = envId then dropOldest envId excess rest
    else row :: dropOldest envId (excess + 1) rest

def evictLedger (envId : EnvId) (rows : List (LedgerRow B)) : List (LedgerRow B) :=
  dropOldest envId (rows.countP (fun row => row.envId = envId) - maxLedgerRowsPerEnv) rows

def MutationJournal.ledgerRow (journal : MutationJournal V B) : LedgerRow B where
  operation := journal.operation
  requestFingerprint := journal.requestFingerprint
  responseStatus := journal.responseStatus
  responseBody := journal.responseBody
  envId := journal.envId
  idempotencyKey := journal.idempotencyKey

def insertLedger (ledger : List (LedgerRow B)) (journal : MutationJournal V B) :
    Except StorageError (List (LedgerRow B)) :=
  if ledger.any fun row => row.isFor journal.envId journal.idempotencyKey then
    .error (.idempotencyKeyCommitted journal.envId journal.idempotencyKey)
  else .ok (evictLedger journal.envId (ledger ++ [journal.ledgerRow]))

def auditState (db : Db V B) : AuditState V := ⟨db.auditLog, db.auditRetention⟩

@[simps]
def withAudit (db : Db V B) (state : AuditState V) : Db V B :=
  { db with auditLog := state.log, auditRetention := state.retention }

def appendAndPrune (state : AuditState V) (envId : EnvId) (eventId : String) (event : V)
    (auditCap : Option Nat) (now : Timestamp) : Except StorageError (AuditState V) :=
  match appendAudit state.log envId eventId now event with
  | .error e => .error e
  | .ok log =>
    match auditCap with
    | none => .ok ⟨log, state.retention⟩
    | some cap => .ok (pruneAuditLog ⟨log, state.retention⟩ envId cap now)

def journalInTx (db : Db V B) (journal : MutationJournal V B) (auditCap : Option Nat)
    (now : Timestamp) : Except StorageError (Db V B) :=
  match insertLedger db.idempotencyLedger journal with
  | .error e => .error e
  | .ok ledger =>
    match appendAndPrune (auditState db) journal.envId journal.auditEventId journal.auditEvent
        auditCap now with
    | .error e => .error e
    | .ok state => .ok (withAudit { db with idempotencyLedger := ledger } state)

end GreenticDeployer.Store
