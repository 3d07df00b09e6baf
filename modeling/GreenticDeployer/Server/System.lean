import GreenticDeployer.Server.Conformance
import GreenticDeployer.Engine.Routing
import GreenticDeployer.Store.Effects
import GreenticDeployer.Store.PlainJson

/-!
# The server as an interleaved system

Any number of requests over one store, one storage call at a time, and restarts
that drop every request in flight. What a call of a request can do to the store
is said once, for all handlers.
-/

set_option maxHeartbeats 200000

namespace GreenticDeployer.Server

open Spec Engine Store Trust Lib

variable {V : Type}

structure ServerState (V : Type) where
  db : Db V (ResponseBody V)
  auditCap : Option Nat

/-- `with_audit_max_rows_per_env`: a cap below one row is a cap of one. -/
def auditCapOf (maxRows : Option UInt32) : Option Nat := maxRows.map fun rows => max rows.toNat 1

def server (cfg : Config V) :
    Interleaving (ServerState V) (Request V) (Call V) StorageCall.Reply (Known V)
      (Except RemoteStoreError (Response V)) Timestamp (Option UInt32 × Timestamp) where
  exec := fun now state call =>
    let outcome := execute cfg.json cfg.ext ⟨state.auditCap, now⟩ state.db call
    (outcome.1, { state with db := outcome.2 })
  reset := fun state event =>
    ⟨reconcileAuditRetention state.db (auditCapOf event.1) event.2, auditCapOf event.1⟩
  start := fun _ => Known.nothing
  body := serve cfg
  learn := learn

abbrev ServerTask (V : Type) :=
  Task (Request V) (Call V) StorageCall.Reply (Known V) (Except RemoteStoreError (Response V))

abbrev ServerPool (V : Type) :=
  Pool (ServerState V) (Request V) (Call V) StorageCall.Reply (Known V)
    (Except RemoteStoreError (Response V))

abbrev ServerAction (V : Type) := PoolAction (Request V) Timestamp (Option UInt32 × Timestamp)

/-- A server on a freshly migrated database. -/
def boot (maxRows : Option UInt32) : ServerPool V := ⟨⟨Db.empty, auditCapOf maxRows⟩, []⟩

/-- Every run of the server: requests arrive, proceed and are dropped in any
order. -/
def serverRuns (cfg : Config V) : System (ServerPool V) (ServerAction V) :=
  (server cfg).system fun _ _ => True

def arrivals (actions : List (ServerAction V)) : List (Request V) :=
  actions.filterMap fun action =>
    match action with
    | .arrive request => some request
    | _ => none

/-- The tables a request's transaction has written when it reaches its journal. -/
inductive Drafts (cfg : Config V) (request : Request V) (ctx : Context) (k : Known V)
    (db : Db V (ResponseBody V)) : Call V → Db V (ResponseBody V) → Prop
  | record {loaded journal} (known : k.loaded = some loaded) :
      Drafts cfg request ctx k db (.recordJournal journal) db
  | create {env data journal} (named : env.environmentId = ctx.envId)
      (founds : ∃ mutation, request.route = .mutate mutation ∧ mutation.Founds env)
      (encoded : cfg.json.environment.toValue env = .ok data)
      (absent : db.environments.lookup env.environmentId = none)
      (valid : env.validate cfg.ext = .ok ()) :
      Drafts cfg request ctx k db (.createEnv env journal)
        (db.putEnv env.environmentId (docRow cfg.json data 1))
  | update {env precondition loaded data row journal} (known : k.loaded = some loaded)
      (transforms : Transforms cfg request ctx loaded.value env fun verb =>
        keepsAccounts verb = true)
      (encoded : cfg.json.environment.toValue env = .ok data)
      (current : db.environments.lookup env.environmentId = some row)
      (fresh : row.generation = loaded.revision.generation)
      (valid : env.validate cfg.ext = .ok ()) :
      Drafts cfg request ctx k db (.updateEnv env precondition journal)
        (db.putEnv env.environmentId (docRow cfg.json data (row.generation + 1)))
  | policy {env precondition loaded index deployment artifact trustRootPin data row journal}
      (known : k.loaded = some loaded)
      (transforms : Transforms cfg request ctx loaded.value env fun _ => True)
      (priced : Priced loaded.value env index deployment artifact)
      (encoded : cfg.json.environment.toValue env = .ok data)
      (current : db.environments.lookup env.environmentId = some row)
      (fresh : row.generation = loaded.revision.generation)
      (valid : env.validate cfg.ext = .ok ()) :
      Drafts cfg request ctx k db
        (.updateEnvWithRevenuePolicy env precondition artifact trustRootPin journal)
        ((db.putPolicy (artifact.key env.environmentId) artifact).putEnv env.environmentId
          (docRow cfg.json data (row.generation + 1)))
  | trustRoot {doc precondition loaded data generation journal} (known : k.loaded = some loaded)
      (encoded : cfg.json.trustRoot.toValue doc = .ok data)
      (schema : checkSchema SchemaVersion.trustRootV1 ⟨doc.schema⟩ = .ok ()) :
      Drafts cfg request ctx k db (.upsertTrustRoot ctx.envId doc precondition journal)
        (db.putTrustRoot ctx.envId (docRow cfg.json data generation))
  | backup {backup snapshot revision journal} (known : k.captured = some (snapshot, revision))
      (encoded : cfg.json.snapshot.toValue snapshot = .ok backup.state)
      (named : backup.manifest.envId = ctx.envId) :
      Drafts cfg request ctx k db (.createBackup backup journal)
        (db.putBackup backup.manifest.envId backup)
  | dropBackup {id loaded journal} (known : k.loaded = some loaded) :
      Drafts cfg request ctx k db (.deleteBackup ctx.envId id journal) (db.dropBackup ctx.envId id)
  | restore {snapshot precondition loaded backup env data row runtimes answers journal}
      (asked : ∃ segment id pin, request.route = .mutate (.restoreEnvironment segment id pin))
      (known : k.loaded = some loaded) (held : k.backup = some backup)
      (unpacked : cfg.json.snapshot.fromValue backup.state = .ok snapshot)
      (decoded : cfg.json.environment.fromValue snapshot.environment = .ok env)
      (encoded : cfg.json.environment.toValue env = .ok data)
      (current : db.environments.lookup env.environmentId = some row)
      (fresh : row.generation = loaded.revision.generation)
      (valid : env.validate cfg.ext = .ok ()) :
      Drafts cfg request ctx k db (.restoreEnv ctx.envId snapshot precondition journal)
        (withAudit ((db.putEnv env.environmentId
          (docRow cfg.json data (row.generation + 1))).withSidecars runtimes answers)
          (replayAuditInTx (auditState db) ctx.envId snapshot.auditLog snapshot.auditRetention))
  | importEnv {snapshot env data runtimes answers audit journal}
      (asked : ∃ segment artifact, request.route = .mutate (.importEnvironment segment artifact))
      (decoded : cfg.json.environment.fromValue snapshot.environment = .ok env)
      (named : env.environmentId = ctx.envId)
      (encoded : cfg.json.environment.toValue env = .ok data)
      (absent : db.environments.lookup ctx.envId = none)
      (history : importAudit (auditState db) ctx.envId snapshot = .ok audit)
      (valid : env.validate cfg.ext = .ok ()) :
      Drafts cfg request ctx k db (.importEnv ctx.envId snapshot journal)
        (withAudit ((db.putEnv ctx.envId (docRow cfg.json data 1)).withSidecars runtimes answers)
          audit)

/-- What a call of a request does: nothing, or the audit of a denial, or a draft
with the journal that commits the request. -/
inductive Effect (cfg : Config V) (request : Request V) (k : Known V) (now : Timestamp)
    (state : ServerState V) (call : Call V) (reply : call.Reply) (after : Db V (ResponseBody V)) :
    Prop
  | quiet (same : after = state.db) (kept : (learn k call reply).committed = none)
  | denial {envId eventId event audit} (refused : request.admission cfg = none)
      (appended : appendAndPrune (auditState state.db) envId eventId event state.auditCap now =
        .ok audit)
      (same : after = withAudit state.db audit) (kept : learn k call reply = k)
  | commit {ctx mid journal} (admitted : request.admission cfg = some ctx)
      (drafts : Drafts cfg request ctx k state.db call mid) (journaled : Journaled ctx journal)
      (wrote : journalInTx mid journal state.auditCap now = .ok after)
      (learned : (learn k call reply).committed = some journal)

theorem learn_error (k : Known V) (call : Call V) (e : StorageError) :
    learn k call (.error e) = k := by
  cases call <;> rfl

/-- What a reply can teach about the tables: the document, the snapshot, the
backup or the ledger row that was read. -/
structure Learns (cfg : Config V) (db : Db V (ResponseBody V)) (k after : Known V) (call : Call V) :
    Prop where
  loaded : after.loaded = k.loaded ∨ ∃ envId loaded, call = .loadEnv envId ∧
    Store.loadEnv cfg.json cfg.ext db envId = .ok loaded ∧ after.loaded = some loaded
  captured : after.captured = k.captured ∨ ∃ envId captured, call = .loadEnvSnapshot envId ∧
    Store.loadEnvSnapshot db envId = .ok captured ∧ after.captured = some captured
  backup : after.backup = k.backup ∨ ∃ envId id backup, call = .loadBackup envId id ∧
    db.backups.lookup (envId, id) = some backup ∧ after.backup = some backup
  found : after.found = k.found ∨ ∃ envId key record, call = .lookupIdempotency envId key ∧
    lookupIdempotency db envId key = some record ∧ after.found = some record

theorem learns (cfg : Config V) (input : StoreInput) (db : Db V (ResponseBody V)) (k : Known V)
    (call : Call V) :
    Learns cfg db k (learn k call (execute cfg.json cfg.ext input db call).1) call := by
  rcases execute_cases cfg.json cfg.ext input db call with
    ⟨result, done, replied⟩ | ⟨e, replied, _⟩
  · rw [replied]
    cases call with
    | loadEnv envId =>
        obtain ⟨loaded, _⟩ := readOnly_ok done
        exact ⟨.inr ⟨envId, result, rfl, loaded, rfl⟩, .inl rfl, .inl rfl, .inl rfl⟩
    | loadEnvSnapshot envId =>
        obtain ⟨captured, _⟩ := readOnly_ok done
        exact ⟨.inl rfl, .inr ⟨envId, result, rfl, captured, rfl⟩, .inl rfl, .inl rfl⟩
    | loadBackup envId id =>
        have held : db.backups.lookup (envId, id) = result := congrArg Prod.fst (Except.ok.inj done)
        cases result with
        | none => exact ⟨.inl rfl, .inl rfl, .inl rfl, .inl rfl⟩
        | some backup =>
            exact ⟨.inl rfl, .inl rfl, .inr ⟨envId, id, backup, rfl, held, rfl⟩, .inl rfl⟩
    | lookupIdempotency envId key =>
        have looked : lookupIdempotency db envId key = result :=
          congrArg Prod.fst (Except.ok.inj done)
        cases result with
        | none => exact ⟨.inl rfl, .inl rfl, .inl rfl, .inl rfl⟩
        | some record =>
            exact ⟨.inl rfl, .inl rfl, .inl rfl, .inr ⟨envId, key, record, rfl, looked, rfl⟩⟩
    | deleteBackup envId id journal =>
        cases result <;> exact ⟨.inl rfl, .inl rfl, .inl rfl, .inl rfl⟩
    | _ => exact ⟨.inl rfl, .inl rfl, .inl rfl, .inl rfl⟩
  · rw [replied, learn_error]
    exact ⟨.inl rfl, .inl rfl, .inl rfl, .inl rfl⟩

theorem generation_of_check {precondition : Precondition} {etag : StateEtag}
    {generation pin : Nat} (checked : precondition.check etag generation = .ok ())
    (pinned : precondition.expectedGeneration = some pin) : generation = pin := by
  obtain ⟨_, _, generations⟩ := Precondition.check_ok checked
  exact (generations pin pinned).symm

section Effects

variable {cfg : Config V} {request : Request V} {ctx : Context} {k : Known V}
variable {now : Timestamp} {state : ServerState V}

theorem effect_of_permits {call : Call V} {result : call.Result}
    {after : Db V (ResponseBody V)} (admitted : request.admission cfg = some ctx)
    (free : k.committed = none) (permitted : Permits cfg request ctx k call)
    (done : transaction cfg.json cfg.ext ⟨state.auditCap, now⟩ state.db call = .ok (result, after)) :
    Effect cfg request k now state call (.ok result) after := by
  obtain ⟨mid, journal, writes, wrote⟩ := transaction_writes done
  cases permitted with
  | lookup =>
      cases writes
      cases wrote
      cases result <;> exact .quiet rfl free
  | loadEnv =>
      cases writes
      cases wrote
      exact .quiet rfl free
  | loadRoot =>
      cases writes
      cases wrote
      exact .quiet rfl free
  | loadBackup id =>
      cases writes
      cases wrote
      cases result <;> exact .quiet rfl free
  | capture =>
      cases writes
      cases wrote
      exact .quiet rfl free
  | record known journaled =>
      cases writes
      exact .commit admitted (.record known) journaled wrote rfl
  | create named founds journaled =>
      cases writes with
      | create encoded absent valid =>
          exact .commit admitted (.create named founds encoded absent valid) journaled wrote rfl
  | update known pinned transforms journaled =>
      cases writes with
      | update encoded current checked valid =>
          exact .commit admitted (.update known transforms encoded current
            (generation_of_check checked pinned) valid) journaled wrote rfl
  | policy known pinned transforms priced journaled =>
      cases writes with
      | policy root encoded current checked valid =>
          exact .commit admitted (.policy known transforms priced encoded current
            (generation_of_check checked pinned) valid) journaled wrote rfl
  | trustRoot known journaled =>
      cases writes with
      | trustRoot encoded cas schema =>
          exact .commit admitted (.trustRoot known encoded schema) journaled wrote rfl
  | backup known encoded named journaled =>
      cases writes with
      | createBackup fresh =>
          exact .commit admitted (.backup known encoded named) journaled wrote rfl
  | dropBackup known journaled =>
      -- the reply alone tells a deletion from the backup that was not there
      simp only [transaction, Store.deleteBackup] at done
      split at done
      · obtain ⟨committed, rfl⟩ := journaled_ok done
        exact .commit admitted (.dropBackup known) journaled committed rfl
      · cases done
        exact .quiet rfl free
  | restore asked known pinned held unpacked journaled =>
      cases writes with
      | restore decoded encoded current checked runtime restored valid =>
          exact .commit admitted (.restore asked known held unpacked decoded encoded current
            (generation_of_check checked pinned) valid) journaled wrote rfl
  | importEnv asked journaled =>
      cases writes with
      | importEnv decoded named encoded absent runtime imported history valid =>
          exact .commit admitted (.importEnv asked decoded named encoded absent history valid)
            journaled wrote rfl

theorem effect_of_refused {call : Call V} {result : call.Result}
    {after : Db V (ResponseBody V)} (refused : request.admission cfg = none)
    (free : k.committed = none)
    (permitted : (∃ envId eventId event, call = .recordAudit envId eventId event) ∨
      ∃ envId id, call = .loadBackup envId id)
    (done : transaction cfg.json cfg.ext ⟨state.auditCap, now⟩ state.db call = .ok (result, after)) :
    Effect cfg request k now state call (.ok result) after := by
  obtain ⟨mid, journal, writes, wrote⟩ := transaction_writes done
  rcases permitted with ⟨envId, eventId, event, rfl⟩ | ⟨envId, id, rfl⟩
  · cases writes with
    | recordAudit appended =>
        cases wrote
        exact .denial refused appended rfl rfl
  · cases writes
    cases wrote
    cases result <;> exact .quiet rfl free

theorem permits_of_admission {call : Call V} (permitted : permits cfg request k call)
    (admitted : request.admission cfg = some ctx) : Permits cfg request ctx k call := by
  obtain ⟨_, _, rest⟩ := permitted
  rw [admitted] at rest
  exact rest

theorem effect_of_permitted (now : Timestamp) (state : ServerState V) {call : Call V}
    (permitted : permits cfg request k call) :
    Effect cfg request k now state call
      (execute cfg.json cfg.ext ⟨state.auditCap, now⟩ state.db call).1
      (execute cfg.json cfg.ext ⟨state.auditCap, now⟩ state.db call).2 := by
  obtain ⟨_, free, rest⟩ := permitted
  rcases execute_cases cfg.json cfg.ext ⟨state.auditCap, now⟩ state.db call with
    ⟨result, done, replied⟩ | ⟨e, replied, same⟩
  · rw [replied]
    cases admission : request.admission cfg with
    | some ctx =>
        rw [admission] at rest
        exact effect_of_permits admission free rest done
    | none =>
        rw [admission] at rest
        exact effect_of_refused admission free rest done
  · refine .quiet same ?_
    rw [replied, learn_error]
    exact free

theorem Effect.drafted {call : Call V} {reply : call.Reply} {after : Db V (ResponseBody V)}
    {journal : Journal V} (effect : Effect cfg request k now state call reply after)
    (admitted : request.admission cfg = some ctx)
    (committed : (learn k call reply).committed = some journal) :
    ∃ mid, Drafts cfg request ctx k state.db call mid ∧ Journaled ctx journal ∧
      journalInTx mid journal state.auditCap now = .ok after := by
  cases effect with
  | quiet same kept =>
      rw [kept] at committed
      cases committed
  | denial refused appended same kept =>
      rw [refused] at admitted
      cases admitted
  | commit own drafts journaled wrote learned =>
      cases own.symm.trans admitted
      cases learned.symm.trans committed
      exact ⟨_, drafts, journaled, wrote⟩

end Effects

/-- A property of every stored backup, under the environment it is stored for. What holds of a
snapshot when it is captured, and goes on holding while the tables change, holds of it
wherever it is. -/
def Stored (cfg : Config V) (P : EnvId → EnvSnapshot V → Prop) (db : Db V (ResponseBody V)) :
    Prop :=
  ∀ key backup, db.backups.lookup key = some backup →
    ∀ snapshot, cfg.json.snapshot.fromValue backup.state = .ok snapshot → P key.1 snapshot

structure Held (cfg : Config V) (P : EnvId → EnvSnapshot V → Prop) (request : Request V)
    (k : Known V) : Prop where
  captured : ∀ ctx snapshot revision, request.admission cfg = some ctx →
    k.captured = some (snapshot, revision) → P ctx.envId snapshot
  backup : ∀ ctx backup, request.admission cfg = some ctx → k.backup = some backup →
    ∀ snapshot, cfg.json.snapshot.fromValue backup.state = .ok snapshot → P ctx.envId snapshot

section Snapshots

variable {cfg : Config V} {request : Request V} {ctx : Context} {k : Known V}
variable {db mid : Db V (ResponseBody V)} {call : Call V} {P Q : EnvId → EnvSnapshot V → Prop}

theorem Stored.empty : Stored cfg P Db.empty := fun _ _ present => by cases present

theorem Stored.mono (stored : Stored cfg P db) (weaker : ∀ envId snapshot, P envId snapshot →
    Q envId snapshot) : Stored cfg Q db :=
  fun key backup present snapshot unpacked =>
    weaker _ _ (stored key backup present snapshot unpacked)

theorem Stored.sameTables {after : Db V (ResponseBody V)} (stored : Stored cfg P db)
    (same : SameTables db after) : Stored cfg P after := by
  unfold Stored
  rw [same.backups]
  exact stored

theorem Held.nothing (request : Request V) : Held cfg P request Known.nothing where
  captured := fun _ _ _ _ known => (Option.some_ne_none _ known.symm).elim
  backup := fun _ _ _ known => (Option.some_ne_none _ known.symm).elim

theorem Held.mono (held : Held cfg P request k) (weaker : ∀ envId snapshot, P envId snapshot →
    Q envId snapshot) : Held cfg Q request k where
  captured := fun ctx snapshot revision admitted known =>
    weaker _ _ (held.captured ctx snapshot revision admitted known)
  backup := fun ctx backup admitted known snapshot unpacked =>
    weaker _ _ (held.backup ctx backup admitted known snapshot unpacked)

theorem Held.learn {after : Known V} (held : Held cfg P request k) (stored : Stored cfg P db)
    (taken : ∀ envId snapshot revision, Store.loadEnvSnapshot db envId = .ok (snapshot, revision) →
      P envId snapshot)
    (permitted : permits cfg request k call) (learned : Learns cfg db k after call) :
    Held cfg P request after := by
  refine ⟨?_, ?_⟩
  · intro ctx snapshot revision admitted known
    rcases learned.captured with same | ⟨envId, read, rfl, returned, now⟩
    · exact held.captured ctx snapshot revision admitted (same ▸ known)
    · rw [now] at known
      cases known
      cases permits_of_admission permitted admitted
      exact taken _ _ _ returned
  · intro ctx backup admitted known
    rcases learned.backup with same | ⟨envId, id, read, rfl, returned, now⟩
    · exact held.backup ctx backup admitted (same ▸ known)
    · rw [now] at known
      cases known
      cases permits_of_admission permitted admitted
      exact stored (ctx.envId, id) backup returned

theorem drafts_stored (admitted : request.admission cfg = some ctx) (stored : Stored cfg P db)
    (held : Held cfg P request k) (drafts : Drafts cfg request ctx k db call mid) :
    Stored cfg P mid := by
  cases drafts with
  | backup known encoded named =>
      refine Table.forall_insert stored ?_
      intro unpacked opened
      rw [cfg.json.snapshot.fromValue_toValue _ _ encoded] at opened
      cases opened
      rw [named]
      exact held.captured ctx _ _ admitted known
  | dropBackup known => exact Table.forall_erase stored _
  | _ => exact stored

end Snapshots

def demoConfig (rbac : RbacEngine) : Config PlainValue :=
  ⟨plainJson, firstSplitJson, noExternals, rbac,
    .naming fun doc => PlainValue.shareText doc.revenueShare⟩

def demoRequest (token : Option String) (key : String) (mutation : Mutation PlainValue) :
    Request PlainValue where
  head := {
    headers := ⟨token.map fun token => .ascii ("Bearer " ++ token), some (.ascii key), none⟩
    fingerprint := key
    now := 0
    eventId := fun attempt => token.getD "" ++ key ++ toString attempt
    backupId := key
    deploymentId := ⟨1⟩
    endpointId := ⟨9⟩
    operatorKey := some ⟨"op", "private", "op"⟩ }
  route := .mutate mutation

def turns (index count : Nat) : List (ServerAction PlainValue) :=
  List.replicate count (.advance index "2026-01-01 00:00:00")

def served (index : Nat) (request : Request PlainValue) : List (ServerAction PlainValue) :=
  .arrive request :: turns index 8

def demoCreate : Mutation PlainValue :=
  .createEnvironment ⟨⟨"local"⟩, "local", localFresh.hostConfig⟩

def demoRename (name : String) : Mutation PlainValue :=
  .updateEnvironment (.ok ⟨"local"⟩) ⟨some name, .keep, .keep, .keep, .keep, .keep, .keep⟩

end GreenticDeployer.Server
