import GreenticDeployer.Store.Ledger
import Mathlib.Data.List.Sort

/-!
# Rebuilding an environment from a snapshot

An import writes five tables from one snapshot. What each write needs of the
tables it meets, what it leaves there, and what a capture then reads back.
-/

set_option maxHeartbeats 200000

namespace GreenticDeployer.Store

open Spec Engine Lib

variable {V B : Type} {json : StoreJson V} {ext : Externals}

theorem BTreeMap.mem_insert {key : String} {value : V} {entries : List (String × V)}
    (fresh : key ∉ entries.map Prod.fst) (entry : String × V) :
    entry ∈ BTreeMap.insert key value entries ↔ entry = (key, value) ∨ entry ∈ entries := by
  have other : entry ∈ entries → entry.1 < key ∨ key < entry.1 := by
    intro member
    rcases lt_trichotomy entry.1 key with below | same | above
    · exact .inl below
    · exact absurd (List.mem_map.mpr ⟨entry, member, same⟩) fresh
    · exact .inr above
  simp only [BTreeMap.insert, List.mem_append, List.mem_cons, List.mem_filter, decide_eq_true_eq]
  constructor
  · rintro (⟨member, _⟩ | same | ⟨member, _⟩)
    · exact .inr member
    · exact .inl same
    · exact .inr member
  · rintro (same | member)
    · exact .inr (.inl same)
    · rcases other member with below | above
      · exact .inl ⟨member, below⟩
      · exact .inr (.inr ⟨member, above⟩)

/-- The table an import leaves: the captured answers as first rows, the others as
they were. -/
structure Filled (json : StoreJson V) (envId : EnvId) (entries : List (String × V))
    (before after : Table (EnvId × String) (AnswersRow V)) : Prop where
  others : ∀ key, key.1 ≠ envId → after.lookup key = before.lookup key
  own : ∀ slot row, after.lookup (envId, slot) = some row ↔
    before.lookup (envId, slot) = some row ∨
      ∃ data, (slot, data) ∈ entries ∧ row = ⟨docRow json data 1, false⟩

/-- What an audit row records, under whatever number. -/
def AuditEntry.content (entry : AuditEntry V) : String × Timestamp × V :=
  (entry.eventId, entry.recordedAt, entry.event)

def history (log : AuditLog V) (envId : EnvId) : List (String × Timestamp × V) :=
  (log.rows.filter fun row => row.envId = envId).map (·.content)

/-- A log with rows of one environment added at its end. -/
def Appended (envId : EnvId) (contents : List (String × Timestamp × V))
    (log after : AuditLog V) : Prop :=
  ∃ rows : List (AuditRow V), after.rows = log.rows ++ rows ∧
    (∀ row ∈ rows, row.envId = envId) ∧ rows.map (·.content) = contents

theorem Appended.nil (envId : EnvId) {log after : AuditLog V} (same : after.rows = log.rows) :
    Appended envId [] log after := ⟨[], by simp [same], nofun, rfl⟩

theorem Appended.trans {envId : EnvId} {first second : List (String × Timestamp × V)}
    {a b c : AuditLog V} (one : Appended envId first a b) (two : Appended envId second b c) :
    Appended envId (first ++ second) a c := by
  obtain ⟨early, grown, own, recorded⟩ := one
  obtain ⟨late, grownAgain, ownToo, recordedToo⟩ := two
  refine ⟨early ++ late, by rw [grownAgain, grown, List.append_assoc], ?_, ?_⟩
  · intro row member
    rcases List.mem_append.mp member with old | new
    · exact own row old
    · exact ownToo row new
  · rw [List.map_append, recorded, recordedToo]

theorem Appended.history {envId : EnvId} {contents : List (String × Timestamp × V)}
    {log after : AuditLog V} (appended : Appended envId contents log after) :
    history after envId = history log envId ++ contents := by
  obtain ⟨rows, grown, own, recorded⟩ := appended
  have all : rows.filter (fun row => row.envId = envId) = rows :=
    List.filter_eq_self.mpr fun row member => by simp [own row member]
  simp only [Store.history, grown, List.filter_append, List.map_append, all, recorded]

theorem Appended.elsewhere {envId : EnvId} {contents : List (String × Timestamp × V)}
    {log after : AuditLog V} (appended : Appended envId contents log after) :
    after.rows.filter (fun row => row.envId ≠ envId) =
      log.rows.filter fun row => row.envId ≠ envId := by
  obtain ⟨rows, grown, own, _⟩ := appended
  have nothing : rows.filter (fun row => row.envId ≠ envId) = [] :=
    List.filter_eq_nil_iff.mpr fun row member => by simp [own row member]
  rw [grown, List.filter_append, nothing, List.append_nil]

theorem hasEvent_iff (log : AuditLog V) (eventId : String) :
    log.hasEvent eventId = true ↔ ∃ row ∈ log.rows, row.eventId = eventId := by
  simp [AuditLog.hasEvent]

/-- What an import adds of a history: the events the log has not seen. -/
def unseen (log : AuditLog V) (entries : List (AuditEntry V)) : List (String × Timestamp × V) :=
  (entries.filter fun entry => !log.hasEvent entry.eventId).map (·.content)

theorem appendAudit_appended {log after : AuditLog V} {envId : EnvId} {eventId : String}
    {recordedAt : Timestamp} {event : V}
    (returned : appendAudit log envId eventId recordedAt event = .ok after) :
    log.sequence < AuditLog.maxRowId ∧ Appended envId [(eventId, recordedAt, event)] log after := by
  unfold appendAudit at returned
  split at returned
  · cases returned
  · rename_i room
    split at returned
    · cases returned
    · cases returned
      exact ⟨not_le.mp room, _, rfl, by simp, rfl⟩

theorem Appended.hasEvent {envId : EnvId} {contents : List (String × Timestamp × V)}
    {log after : AuditLog V} (appended : Appended envId contents log after) (eventId : String) :
    after.hasEvent eventId = true ↔
      log.hasEvent eventId = true ∨ eventId ∈ contents.map Prod.fst := by
  obtain ⟨rows, grown, own, recorded⟩ := appended
  have added : eventId ∈ contents.map Prod.fst ↔ ∃ row ∈ rows, row.eventId = eventId := by
    rw [← recorded]
    simp [AuditEntry.content]
  rw [hasEvent_iff, hasEvent_iff, added, grown]
  simp [or_and_right, exists_or]

/-- The audit tables of every environment but one, as they were. -/
structure AuditElsewhere (envId : EnvId) (before after : AuditState V) : Prop where
  rows : after.log.rows.filter (fun row => row.envId ≠ envId) =
    before.log.rows.filter fun row => row.envId ≠ envId
  retention : ∀ other, other ≠ envId → after.retention.lookup other = before.retention.lookup other

theorem AuditElsewhere.trans {envId : EnvId} {a b c : AuditState V}
    (first : AuditElsewhere envId a b) (second : AuditElsewhere envId b c) :
    AuditElsewhere envId a c :=
  ⟨second.rows.trans first.rows, fun other elsewhere =>
    (second.retention other elsewhere).trans (first.retention other elsewhere)⟩

theorem pruneAuditLog_elsewhere (state : AuditState V) (envId : EnvId) (cap : Nat)
    (now : Timestamp) : AuditElsewhere envId state (pruneAuditLog state envId cap now) := by
  unfold pruneAuditLog
  split
  · exact ⟨rfl, fun _ _ => rfl⟩
  · refine ⟨?_, fun other elsewhere => AList.lookup_insert_ne elsewhere⟩
    simp only [AuditLog.restrict, List.filter_filter]
    refine List.filter_congr fun row _ => ?_
    by_cases own : row.envId = envId <;> simp [own]

theorem appendAndPrune_elsewhere {state after : AuditState V} {envId : EnvId} {eventId : String}
    {event : V} {auditCap : Option Nat} {now : Timestamp}
    (returned : appendAndPrune state envId eventId event auditCap now = .ok after) :
    AuditElsewhere envId state after := by
  unfold appendAndPrune at returned
  split at returned
  · cases returned
  · rename_i log appended
    have grown : AuditElsewhere envId state ⟨log, state.retention⟩ :=
      ⟨(appendAudit_appended appended).2.elsewhere, fun _ _ => rfl⟩
    split at returned
    · cases returned
      exact grown
    · cases returned
      exact grown.trans (pruneAuditLog_elsewhere _ envId _ now)

theorem evictLedger_elsewhere (envId : EnvId) (rows : List (LedgerRow B)) :
    (evictLedger envId rows).filter (fun row => row.envId ≠ envId) =
      rows.filter fun row => row.envId ≠ envId := by
  unfold evictLedger
  generalize rows.countP _ - maxLedgerRowsPerEnv = excess
  fun_induction dropOldest envId excess rows with
  | case1 rows => rfl
  | case2 => rfl
  | case3 excess row rest own ih => simp only [ih, List.filter_cons, own]; simp
  | case4 excess row rest other ih => simp only [List.filter_cons, ih]

/-- The rows of every environment but one, as they were. -/
structure SameElsewhere (envId : EnvId) (before after : Db V B) : Prop where
  environments : ∀ other, other ≠ envId →
    after.environments.lookup other = before.environments.lookup other
  environmentRuntimes : ∀ other, other ≠ envId →
    after.environmentRuntimes.lookup other = before.environmentRuntimes.lookup other
  packAnswers : ∀ key, key.1 ≠ envId → after.packAnswers.lookup key = before.packAnswers.lookup key
  trustRoots : ∀ other, other ≠ envId →
    after.trustRoots.lookup other = before.trustRoots.lookup other
  revenuePolicies : ∀ key, key.envId ≠ envId →
    after.revenuePolicies.lookup key = before.revenuePolicies.lookup key
  backups : ∀ key, key.1 ≠ envId → after.backups.lookup key = before.backups.lookup key
  idempotencyLedger : after.idempotencyLedger.filter (fun row => row.envId ≠ envId) =
    before.idempotencyLedger.filter fun row => row.envId ≠ envId
  audit : AuditElsewhere envId (auditState before) (auditState after)

theorem restoreRuntime_elsewhere {db : Db V B} {envId other : EnvId} {runtime : Option V}
    {runtimes : Table EnvId (DocRow V)}
    (returned : restoreRuntime json db envId runtime = .ok runtimes) (elsewhere : other ≠ envId) :
    runtimes.lookup other = db.environmentRuntimes.lookup other := by
  cases runtime with
  | none =>
      cases returned
      exact AList.lookup_erase_ne elsewhere
  | some data =>
      obtain ⟨generation, _, returned⟩ := bind_ok returned
      cases returned
      exact AList.lookup_insert_ne elsewhere

theorem importRuntime_elsewhere {db : Db V B} {envId other : EnvId} {runtime : Option V}
    {runtimes : Table EnvId (DocRow V)}
    (returned : importRuntime json db envId runtime = .ok runtimes) (elsewhere : other ≠ envId) :
    runtimes.lookup other = db.environmentRuntimes.lookup other := by
  cases runtime with
  | none =>
      cases returned
      rfl
  | some data =>
      simp only [importRuntime] at returned
      split at returned
      · cases returned
      · cases returned
        exact AList.lookup_insert_ne elsewhere

theorem restoreAnswers_elsewhere {db : Db V B} {envId : EnvId} {key : EnvId × String}
    {answers : Table (EnvId × String) (AnswersRow V)} {captured : BTreeMap V}
    (returned : restoreAnswers json db envId captured = .ok answers)
    (elsewhere : key.1 ≠ envId) : answers.lookup key = db.packAnswers.lookup key := by
  have apart : ∀ slot, key ≠ (envId, slot) := fun slot same => elsewhere (congrArg Prod.fst same)
  obtain ⟨middle, rewritten, returned⟩ := bind_ok returned
  have first : middle.lookup key = db.packAnswers.lookup key := by
    refine foldlM_invariant (fun answers => answers.lookup key = db.packAnswers.lookup key) _ ?_
      rewritten rfl
    intro entry _ state next stepped held
    simp only [restoreCapturedAnswers] at stepped
    split at stepped
    · obtain ⟨generation, _, stepped⟩ := bind_ok stepped
      cases stepped
      exact (AList.lookup_insert_ne (apart entry.1)).trans held
    · obtain ⟨_, _, stepped⟩ := bind_ok stepped
      cases stepped
      exact (AList.lookup_insert_ne (apart entry.1)).trans held
  refine foldlM_invariant (fun answers => answers.lookup key = db.packAnswers.lookup key) _ ?_
    returned first
  intro entry _ state next stepped held
  simp only [restoreMissingAnswers] at stepped
  split at stepped
  · rename_i own
    obtain ⟨generation, _, stepped⟩ := bind_ok stepped
    cases stepped
    have differs : key ≠ entry.1 := fun same => elsewhere ((congrArg Prod.fst same).trans own.1)
    exact (AList.lookup_insert_ne differs).trans held
  · cases stepped
    exact held

theorem importAnswers_elsewhere {envId : EnvId} {key : EnvId × String}
    {existing answers : Table (EnvId × String) (AnswersRow V)} {entries : List (String × V)}
    (returned : entries.foldlM (fun answers entry =>
      importAnswersRow json envId answers entry.1 entry.2) existing = .ok answers)
    (elsewhere : key.1 ≠ envId) : answers.lookup key = existing.lookup key := by
  refine foldlM_invariant (fun answers => answers.lookup key = existing.lookup key) _ ?_
    returned rfl
  intro entry _ state next stepped held
  simp only [importAnswersRow] at stepped
  split at stepped
  · cases stepped
  · cases stepped
    have differs : key ≠ (envId, entry.1) := fun same => elsewhere (congrArg Prod.fst same)
    exact (AList.lookup_insert_ne differs).trans held

/-- A document as the store keeps it for an environment. -/
def Kept (json : StoreJson V) (ext : Externals) (envId : EnvId) (data : V) : Prop :=
  ∃ env, json.environment.toValue env = .ok data ∧ validateEnvironment ext env = .ok () ∧
    env.environmentId = envId

/-- A snapshot that rebuilds an environment: its document is one the store keeps
for it, and its history records no event twice. -/
structure Whole (json : StoreJson V) (ext : Externals) (envId : EnvId)
    (snapshot : EnvSnapshot V) : Prop where
  environment : Kept json ext envId snapshot.environment
  history : (snapshot.auditLog.map (·.eventId)).Nodup

end GreenticDeployer.Store
