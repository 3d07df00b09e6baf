import GreenticDeployer.Server.Updates
import GreenticDeployer.Store.Ledger

/-!
# Exactly-once requests

The gate looks at the ledger before the transaction, the insert decides inside
it. Of the copies of one request that pass the gate, one can commit; the others
roll back and find its row, at the gate or when they fail.
-/

set_option maxHeartbeats 200000

namespace GreenticDeployer.Server

open Spec Engine Store Trust Lib

variable {V : Type} {cfg : Config V} {request : Request V} {ctx : Context} {k : Known V}
variable {db mid : Db V (ResponseBody V)} {call : Call V}

theorem drafts_ledger (drafts : Drafts cfg request ctx k db call mid) :
    mid.idempotencyLedger = db.idempotencyLedger := by
  cases drafts <;> rfl

/-- What a call does to the database: nothing, the audit row of a denial, or the
transaction whose insert commits the request. -/
theorem Effect.transaction {now : Timestamp} {state : ServerState V} {reply : call.Reply}
    {after : Db V (ResponseBody V)} (effect : Effect cfg request k now state call reply after) :
    after = state.db ∨
    (request.admission cfg = none ∧ after.idempotencyLedger = state.db.idempotencyLedger) ∨
    ∃ ctx journal, request.admission cfg = some ctx ∧ Journaled ctx journal ∧
      insertLedger state.db.idempotencyLedger journal = .ok after.idempotencyLedger ∧
      (learn k call reply).committed = some journal := by
  cases effect with
  | quiet same kept => exact .inl same
  | denial refused appended same kept => exact .inr (.inl ⟨refused, by rw [same]; rfl⟩)
  | @commit ctx mid journal admitted drafts journaled wrote learned =>
      obtain ⟨ledger, audit, inserted, _, written⟩ := journalInTx_ok wrote
      refine .inr (.inr ⟨ctx, journal, admitted, journaled, ?_, learned⟩)
      rw [written, ← drafts_ledger drafts]
      exact inserted

theorem Effect.ledger {now : Timestamp} {state : ServerState V} {reply : call.Reply}
    {after : Db V (ResponseBody V)} (effect : Effect cfg request k now state call reply after) :
    after.idempotencyLedger = state.db.idempotencyLedger ∨
    ∃ ctx journal, request.admission cfg = some ctx ∧ Journaled ctx journal ∧
      insertLedger state.db.idempotencyLedger journal = .ok after.idempotencyLedger ∧
      (learn k call reply).committed = some journal := by
  rcases effect.transaction with same | ⟨-, same⟩ | commit
  · exact .inl (congrArg Db.idempotencyLedger same)
  · exact .inl same
  · exact .inr commit

def Loads (cfg : Config V) (envId : EnvId) (row : DocRow V) : Prop :=
  cfg.json.sha256Of row.data = row.integrityDigest ∧
    ∃ env, cfg.json.environment.fromValue row.data = .ok env ∧ env.environmentId = envId ∧
      env.validate cfg.ext = .ok ()

def RootLoads (cfg : Config V) (row : DocRow V) : Prop :=
  cfg.json.sha256Of row.data = row.integrityDigest ∧
    ∃ doc, cfg.json.trustRoot.fromValue row.data = .ok doc ∧
      checkSchema SchemaVersion.trustRootV1 ⟨doc.schema⟩ = .ok ()

/-- What the ledger can rely on: distinct keys, each of an environment whose
document, like its trust root, can be read. -/
structure Answerable (cfg : Config V) (db : Db V (ResponseBody V)) : Prop where
  distinct : KeysDistinct db.idempotencyLedger
  placed : ∀ row ∈ db.idempotencyLedger, db.environments.lookup row.envId ≠ none
  environments : ∀ envId row, db.environments.lookup envId = some row → Loads cfg envId row
  trustRoots : ∀ envId row, db.trustRoots.lookup envId = some row → RootLoads cfg row

theorem loadEnv_of_loads {envId : EnvId} {row : DocRow V}
    (present : db.environments.lookup envId = some row) (loads : Loads cfg envId row) :
    ∃ loaded, Store.loadEnv cfg.json cfg.ext db envId = .ok loaded := by
  obtain ⟨digest, env, decoded, named, valid⟩ := loads
  refine ⟨⟨env, row.revision⟩, ?_⟩
  simp only [Store.loadEnv, present, verifyIntegrity, digest, decode, decoded, ensure, if_true,
    bind, Except.bind, named, valid, liftSpec]
  rfl

theorem loadTrustRoot_of_loads {envId : EnvId}
    (loads : ∀ row, db.trustRoots.lookup envId = some row → RootLoads cfg row) :
    ∃ root, Store.loadTrustRoot cfg.json db envId = .ok root := by
  cases present : db.trustRoots.lookup envId with
  | none => exact ⟨none, by simp only [Store.loadTrustRoot, present]⟩
  | some row =>
      obtain ⟨digest, doc, decoded, schema⟩ := loads row present
      refine ⟨some ⟨doc, row.revision⟩, ?_⟩
      simp only [Store.loadTrustRoot, present, verifyIntegrity, digest, decode, decoded, ensure,
        if_true, bind, Except.bind, schema, liftSpec]
      rfl

theorem drafts_present (admitted : request.admission cfg = some ctx)
    (remembers : Remembers cfg request k db) (drafts : Drafts cfg request ctx k db call mid) :
    mid.environments.lookup ctx.envId ≠ none := by
  have loaded : ∀ {loaded}, k.loaded = some loaded → mid.environments.lookup ctx.envId ≠ none :=
    fun known => (drafts_environments drafts ctx.envId).present
      (remembers.loaded ctx _ admitted known).present
  cases drafts with
  | create named founds encoded absent valid =>
      rw [← named, Db.putEnv_environments, AList.lookup_insert]
      exact Option.some_ne_none _
  | importEnv asked decoded named encoded absent history valid =>
      rw [withAudit_environments, Db.withSidecars_environments, Db.putEnv_environments,
        AList.lookup_insert]
      exact Option.some_ne_none _
  | backup known encoded named => exact (remembers.snapshots.captured ctx _ _ admitted known).2
  | update known => exact loaded known
  | policy known => exact loaded known
  | restore asked known => exact loaded known
  | record known => exact loaded known
  | trustRoot known => exact loaded known
  | dropBackup known => exact loaded known

theorem Answerable.withAudit (held : Answerable cfg db) (audit : AuditState V) :
    Answerable cfg (withAudit db audit) :=
  ⟨held.distinct, held.placed, held.environments, held.trustRoots⟩

theorem Answerable.empty : Answerable cfg Db.empty where
  distinct := List.nodup_nil
  placed := fun _ member => absurd member List.not_mem_nil
  environments := fun _ _ present => by cases present
  trustRoots := fun _ _ present => by cases present

/-- The ledger row of a request that has passed the checks in front of the gate. -/
structure Answers (db : Db V (ResponseBody V)) (ctx : Context)
    (row : LedgerRow (ResponseBody V)) : Prop where
  member : row ∈ db.idempotencyLedger
  named : row.key = (ctx.envId, ctx.idemKey.asStr)

theorem Answers.lookup {row : LedgerRow (ResponseBody V)} (answers : Answers db ctx row)
    (held : Answerable cfg db) :
    lookupIdempotency db ctx.envId ctx.idemKey.asStr = some row.toStoredIdempotencyRecord := by
  unfold lookupIdempotency
  rw [lookup_of_mem held.distinct answers.member answers.named]
  rfl

theorem Answers.loads {row : LedgerRow (ResponseBody V)} (answers : Answers db ctx row)
    (held : Answerable cfg db) :
    (∃ loaded, Store.loadEnv cfg.json cfg.ext db ctx.envId = .ok loaded) ∧
      ∃ root, Store.loadTrustRoot cfg.json db ctx.envId = .ok root := by
  have own : row.envId = ctx.envId := congrArg Prod.fst answers.named
  obtain ⟨stored, present⟩ := Option.ne_none_iff_exists'.mp (held.placed row answers.member)
  rw [own] at present
  exact ⟨loadEnv_of_loads present (held.environments ctx.envId stored present),
    loadTrustRoot_of_loads (held.trustRoots ctx.envId)⟩

theorem execute_lookup (input : StoreInput) (envId : EnvId) (key : String) :
    execute cfg.json cfg.ext input db (.lookupIdempotency envId key) =
      (.ok (lookupIdempotency db envId key), db) := rfl

theorem Request.admission_head (admitted : request.admission cfg = some ctx) :
    ctx.head = request.head := by
  obtain ⟨mutation, handler, body, _, _, admits, _⟩ := Request.admission_some admitted
  exact (Handler.run_admitted cfg admits).2.1

end GreenticDeployer.Server
