import GreenticDeployer.Server.TrustRoots
import GreenticDeployer.Server.Updates

/-!
# Trust roots over whole runs

The server again, with what each request has read of a trust root beside it. The
stored keys are the committed edits, applied one after the other: concurrent
first writes and updates neither overwrite nor lose one. A policy is committed
only under the trust root that is stored at that moment.
-/

set_option maxHeartbeats 200000

namespace GreenticDeployer.Server

open Spec Engine Store Trust Lib

variable {V : Type}

def rootServer (cfg : Config V) :
    Interleaving (ServerState V) (Request V) (Call V) StorageCall.Reply (Known V × RootKnown V)
      (Except RemoteStoreError (Response V)) Timestamp (Option UInt32 × Timestamp) where
  exec := (server cfg).exec
  reset := (server cfg).reset
  start := fun _ => (Known.nothing, RootKnown.nothing)
  body := serve cfg
  learn := fun k call reply => (learn k.1 call reply, learnRoot k.2 call reply)

abbrev RootTask (V : Type) :=
  Task (Request V) (Call V) StorageCall.Reply (Known V × RootKnown V)
    (Except RemoteStoreError (Response V))

abbrev RootPool (V : Type) :=
  Pool (ServerState V) (Request V) (Call V) StorageCall.Reply (Known V × RootKnown V)
    (Except RemoteStoreError (Response V))

def rootRuns (cfg : Config V) : System (RootPool V) (ServerAction V) :=
  (rootServer cfg).system fun _ _ => True

/-- A server on a freshly migrated database. -/
def rootBoot (maxRows : Option UInt32) : RootPool V := ⟨⟨Db.empty, auditCapOf maxRows⟩, []⟩

/-- The keys a store trusts for an environment: none without a row. -/
def storedKeys (cfg : Config V) (db : Db V (ResponseBody V)) (envId : EnvId) : List TrustedKey :=
  match db.trustRoots.lookup envId with
  | none => []
  | some row =>
    match cfg.json.trustRoot.fromValue row.data with
    | .ok doc => doc.keys
    | .error _ => []

def RootPool.acting (pool : RootPool V) : ServerAction V → Option (Request V × Timestamp × Call V)
  | .advance index now =>
    match pool.tasks[index]? with
    | none => none
    | some task =>
      match task.program with
      | .done _ => none
      | .call call _ => some (task.tag, now, call)
  | _ => none

def callEdit (cfg : Config V) (envId : EnvId) (state : ServerState V) :
    Request V × Timestamp × Call V → Option RootEdit
  | (request, now, .upsertTrustRoot named doc precondition journal) =>
    if named = envId ∧ ((rootServer cfg).exec now state
        (.upsertTrustRoot named doc precondition journal)).1.isOk then
      request.rootEdit cfg
    else none
  | _ => none

def committedEdits (cfg : Config V) (envId : EnvId) : RootPool V → List (ServerAction V) →
    List RootEdit
  | _, [] => []
  | pool, action :: rest =>
    ((pool.acting action).bind (callEdit cfg envId pool.shared)).toList ++
      committedEdits cfg envId ((rootRuns cfg).step pool action) rest

def callPolicy (cfg : Config V) (state : ServerState V) :
    Request V × Timestamp × Call V → Option (EnvId × RevenuePolicyArtifact)
  | (_, now, .updateEnvWithRevenuePolicy env precondition artifact trustRootPin journal) =>
    if ((rootServer cfg).exec now state (.updateEnvWithRevenuePolicy env precondition artifact
        trustRootPin journal)).1.isOk then
      some (env.environmentId, artifact)
    else none
  | _ => none

/-- A trust root that was read is the row's, as long as the row has its
generation, and the row never returns to it. -/
def RootCurrent (cfg : Config V) (db : Db V (ResponseBody V)) (envId : EnvId)
    (loaded : Loaded TrustRootDocument) : Prop :=
  ∃ row, db.trustRoots.lookup envId = some row ∧
    loaded.revision.generation ≤ row.generation ∧
    (row.generation = loaded.revision.generation →
      cfg.json.trustRoot.fromValue row.data = .ok loaded.value)

structure RootRemembers (cfg : Config V) (k : RootKnown V) (db : Db V (ResponseBody V)) :
    Prop where
  root : ∀ envId loaded, k.root = some (envId, some loaded) → RootCurrent cfg db envId loaded
  loaded : ∀ envId loaded, k.loaded = some (envId, loaded) → loaded.value.environmentId = envId

section Rules

variable {cfg : Config V} {db : Db V (ResponseBody V)} {k : RootKnown V}

theorem RootCurrent.step {after : Db V (ResponseBody V)} {envId : EnvId}
    {loaded : Loaded TrustRootDocument} (held : RootCurrent cfg db envId loaded)
    (step : RowStep DocRow.generation (db.trustRoots.lookup envId)
      (after.trustRoots.lookup envId)) : RootCurrent cfg after envId loaded := by
  obtain ⟨row, present, low, same⟩ := held
  rcases step with unchanged | ⟨absent, _⟩ | ⟨old, new, current, written, succ⟩
  · exact ⟨row, unchanged.trans present, low, same⟩
  · rw [absent] at present
    cases present
  · rw [current] at present
    cases present
    exact ⟨new, written, by omega, fun equal => by omega⟩

theorem RootRemembers.step {after : Db V (ResponseBody V)} (held : RootRemembers cfg k db)
    (steps : ∀ envId, RowStep DocRow.generation (db.trustRoots.lookup envId)
      (after.trustRoots.lookup envId)) : RootRemembers cfg k after where
  root := fun envId loaded read => (held.root envId loaded read).step (steps envId)
  loaded := held.loaded

theorem RootRemembers.nothing (db : Db V (ResponseBody V)) :
    RootRemembers cfg RootKnown.nothing db where
  root := fun _ _ read => (Option.some_ne_none _ read.symm).elim
  loaded := fun _ _ read => (Option.some_ne_none _ read.symm).elim

theorem loadTrustRoot_current {envId : EnvId} {loaded : Loaded TrustRootDocument}
    (returned : Store.loadTrustRoot cfg.json db envId = .ok (some loaded)) :
    RootCurrent cfg db envId loaded := by
  unfold Store.loadTrustRoot at returned
  split at returned
  · cases returned
  · rename_i row current
    obtain ⟨_, _, returned⟩ := bind_ok returned
    obtain ⟨doc, decoded, returned⟩ := bind_ok returned
    obtain ⟨_, _, returned⟩ := bind_ok returned
    cases returned
    exact ⟨row, current, le_rfl, fun _ => decode_ok decoded⟩

theorem loadEnv_named {envId : EnvId} {loaded : Loaded Environment}
    (returned : Store.loadEnv cfg.json cfg.ext db envId = .ok loaded) :
    loaded.value.environmentId = envId := by
  unfold Store.loadEnv at returned
  split at returned
  · cases returned
  · obtain ⟨_, _, returned⟩ := bind_ok returned
    obtain ⟨env, _, returned⟩ := bind_ok returned
    obtain ⟨_, named, returned⟩ := bind_ok returned
    obtain ⟨_, _, returned⟩ := bind_ok returned
    cases returned
    exact ensure_ok named

theorem learnRoot_error (k : RootKnown V) (call : Call V) (e : StorageError) :
    learnRoot k call (.error e) = k := by
  cases call <;> rfl

/-- What a reply teaches is true of the tables it was read from. -/
theorem RootRemembers.learn (input : StoreInput) (call : Call V) (held : RootRemembers cfg k db) :
    RootRemembers cfg (learnRoot k call (execute cfg.json cfg.ext input db call).1)
      (execute cfg.json cfg.ext input db call).2 := by
  have kept : RootRemembers cfg k (execute cfg.json cfg.ext input db call).2 :=
    held.step fun envId => (execute_rootWrite input db call).step envId
  rcases execute_cases cfg.json cfg.ext input db call with
    ⟨result, done, replied⟩ | ⟨e, replied, _⟩
  · rw [replied]
    cases call with
    | loadTrustRoot envId =>
        obtain ⟨returned, same⟩ := readOnly_ok done
        refine ⟨?_, kept.loaded⟩
        rintro _ loaded ⟨⟩
        rw [same]
        exact loadTrustRoot_current returned
    | loadEnv envId =>
        obtain ⟨returned, _⟩ := readOnly_ok done
        refine ⟨kept.root, ?_⟩
        rintro _ loaded ⟨⟩
        exact loadEnv_named returned
    | lookupIdempotency envId key => cases result <;> exact ⟨kept.root, kept.loaded⟩
    | upsertTrustRoot envId doc precondition journal => exact ⟨kept.root, kept.loaded⟩
    | _ => exact kept
  · rw [replied, learnRoot_error]
    exact kept

def bothPermit (cfg : Config V) (request : Request V) (k : Known V × RootKnown V)
    (call : Call V) : Prop :=
  permits cfg request k.1 call ∧ rootPermits cfg request k.2 call

def BothEnd (cfg : Config V) (request : Request V) (k : Known V × RootKnown V)
    (result : Except RemoteStoreError (Response V)) : Prop :=
  Ends cfg request k.1 result ∧ RootEnds cfg request k.2 result

theorem rootServer_rules (cfg : Config V) :
    (rootServer cfg).Rules (fun _ _ => True) (bothPermit cfg) (BothEnd cfg) (fun _ => True)
      (fun _ k state => RootRemembers cfg k.2 state.db) where
  body := fun request => (serve_obeys cfg request).both (serve_trusts cfg request)
  start := fun _ _ _ => .nothing _
  reset := fun _ _ _ _ => trivial
  inv := fun _ _ _ _ _ _ _ _ _ _ => trivial
  learned := by
    intro pool index now task call next _ found program sound
    exact (sound.acting found program).2.learn ⟨pool.shared.auditCap, now⟩ call
  stable := by
    intro pool index now task call next _ _ _ _ other _ _ held
    exact held.step fun envId =>
      (execute_rootWrite ⟨pool.shared.auditCap, now⟩ pool.shared.db call).step envId

theorem storedKeys_congr {after : Db V (ResponseBody V)} (same : after.trustRoots = db.trustRoots)
    (envId : EnvId) : storedKeys cfg after envId = storedKeys cfg db envId := by
  rw [storedKeys, storedKeys, same]

/-- The keys before a guarded write, given what the writer read. -/
theorem storedKeys_of_cas {envId : EnvId} {current : Option (Loaded TrustRootDocument)}
    {insertable : Except StorageError Unit} {generation : Nat}
    (held : ∀ loaded, current = some loaded → RootCurrent cfg db envId loaded)
    (cas : casUpsert (db.trustRoots.lookup envId) envId (docAndPrecondition current).2 insertable =
      .ok generation) :
    storedKeys cfg db envId = (docAndPrecondition current).1.keys := by
  cases current with
  | none =>
      cases present : db.trustRoots.lookup envId with
      | none =>
          rw [storedKeys, present]
          rfl
      | some row =>
          rw [present] at cas
          cases cas
  | some loaded =>
      obtain ⟨row, present, _, same⟩ := held loaded rfl
      rw [present] at cas
      obtain ⟨_, checked, _⟩ := bind_ok cas
      have fresh : row.generation = loaded.revision.generation :=
        generation_of_check (checkPrecondition_ok checked) rfl
      rw [storedKeys, present]
      dsimp only
      rw [same fresh]
      rfl

theorem storedKeys_write {input : StoreInput} {envId : EnvId} {doc : TrustRootDocument}
    {current : Option (Loaded TrustRootDocument)} {journal : Option (Journal V)} {edit : RootEdit}
    (held : ∀ loaded, current = some loaded → RootCurrent cfg db envId loaded)
    (edited : doc = { (docAndPrecondition current).1 with
      keys := edit.apply (docAndPrecondition current).1.keys })
    (committed : (execute cfg.json cfg.ext input db (.upsertTrustRoot envId doc
      (docAndPrecondition current).2 journal)).1.isOk = true) (other : EnvId) :
    storedKeys cfg (execute cfg.json cfg.ext input db (.upsertTrustRoot envId doc
        (docAndPrecondition current).2 journal)).2 other =
      if envId = other then edit.apply (storedKeys cfg db other) else storedKeys cfg db other := by
  rcases execute_cases cfg.json cfg.ext input db (.upsertTrustRoot envId doc
    (docAndPrecondition current).2 journal) with ⟨result, done, _⟩ | ⟨e, failed, _⟩
  · obtain ⟨mid, written, writes, wrote⟩ := transaction_writes done
    cases writes with
    | trustRoot encoded cas schema =>
        rw [storedKeys_congr (journal?_sameTables wrote).trustRoots]
        split
        · rename_i same
          subst same
          rw [storedKeys_of_cas held cas, storedKeys, Db.putTrustRoot_trustRoots,
            AList.lookup_insert]
          dsimp only [docRow]
          rw [cfg.json.trustRoot.fromValue_toValue _ _ encoded, edited]
        · rename_i elsewhere
          rw [storedKeys, Db.putTrustRoot_trustRoots, AList.lookup_insert_ne (Ne.symm elsewhere)]
          rfl
  · rw [failed] at committed
    cases committed

end Rules

abbrev RootSound (cfg : Config V) (pool : RootPool V) : Prop :=
  (rootServer cfg).Sound (bothPermit cfg) (BothEnd cfg) (fun _ => True)
    (fun _ k state => RootRemembers cfg k.2 state.db) pool

section Runs

variable {cfg : Config V} {pool : RootPool V} {envId : EnvId}

theorem acting_call {index : Nat} {now : Timestamp} {task : RootTask V} {call : Call V}
    {next : call.Reply → Program (Call V) StorageCall.Reply (Except RemoteStoreError (Response V))}
    (found : pool.tasks[index]? = some task) (program : task.program = .call call next) :
    pool.acting (.advance index now) = some (task.tag, now, call) := by
  simp only [RootPool.acting, found, program]

theorem acting_idle {index : Nat} {now : Timestamp}
    (ended : ∀ task, pool.tasks[index]? = some task → ∃ result, task.program = .done result) :
    pool.acting (.advance index now) = none := by
  simp only [RootPool.acting]
  cases present : pool.tasks[index]? with
  | none => rfl
  | some task =>
      obtain ⟨result, done⟩ := ended task present
      simp only [done]

theorem callEdit_none {state : ServerState V} {request : Request V} {now : Timestamp}
    {call : Call V} (other : ∀ named doc precondition journal,
      call ≠ .upsertTrustRoot named doc precondition journal) :
    callEdit cfg envId state (request, now, call) = none := by
  cases call with
  | upsertTrustRoot named doc precondition journal => exact (other _ _ _ _ rfl).elim
  | _ => rfl

theorem storedKeys_call {request : Request V} {k : RootKnown V} {state : ServerState V}
    {now : Timestamp} {call : Call V} (permitted : rootPermits cfg request k call)
    (remembers : RootRemembers cfg k state.db) :
    storedKeys cfg ((rootServer cfg).exec now state call).2.db envId =
      (callEdit cfg envId state (request, now, call)).toList.foldl RootEdit.apply
        (storedKeys cfg state.db envId) := by
  by_cases writing : ∃ named doc precondition journal,
      call = .upsertTrustRoot named doc precondition journal
  · obtain ⟨named, doc, precondition, journal, rfl⟩ := writing
    obtain ⟨current, edit, read, asked, edited, rfl⟩ := permitted
    have held : ∀ loaded, current = some loaded → RootCurrent cfg state.db named loaded := by
      rintro loaded rfl
      exact remembers.root named loaded read
    simp only [callEdit]
    cases committed : ((rootServer cfg).exec now state (.upsertTrustRoot named doc
        (docAndPrecondition current).2 journal)).1.isOk with
    | true =>
        refine (storedKeys_write held edited committed envId).trans ?_
        by_cases same : named = envId
        · simp only [same, if_true, and_self, asked]
          rfl
        · simp only [same, if_false, false_and]
          rfl
    | false =>
        simp only [Bool.false_eq_true, and_false, if_false]
        rcases execute_cases cfg.json cfg.ext ⟨state.auditCap, now⟩ state.db (.upsertTrustRoot named
          doc (docAndPrecondition current).2 journal) with ⟨result, _, replied⟩ | ⟨e, _, same⟩
        · have accepted := congrArg Except.isOk replied
          exact (Bool.false_ne_true (committed.symm.trans accepted)).elim
        · exact congrArg (fun db => storedKeys cfg db envId) same
  · have other : ∀ named doc precondition journal,
        call ≠ .upsertTrustRoot named doc precondition journal :=
      fun named doc precondition journal same =>
        writing ⟨named, doc, precondition, journal, same⟩
    rw [callEdit_none other]
    cases execute_rootWrite ⟨state.auditCap, now⟩ state.db call with
    | keep same => exact storedKeys_congr same envId
    | write wrote => exact (other _ _ _ _ wrote).elim

theorem storedKeys_step (sound : RootSound cfg pool) (action : ServerAction V) :
    storedKeys cfg ((rootRuns cfg).step pool action).shared.db envId =
      ((pool.acting action).bind (callEdit cfg envId pool.shared)).toList.foldl RootEdit.apply
        (storedKeys cfg pool.shared.db envId) := by
  cases action with
  | arrive request => rfl
  | restart event => exact storedKeys_congr (reconcileAuditRetention_sameTables _ _ _).trustRoots envId
  | advance index now =>
      rcases (rootServer cfg).step_advance pool index now with
        ⟨same, ended⟩ | ⟨task, call, next, found, program, stepped⟩
      · rw [acting_idle ended]
        exact congrArg (fun pool => storedKeys cfg pool.shared.db envId) same
      · rw [acting_call found program]
        obtain ⟨⟨_, permitted⟩, remembers⟩ := sound.acting found program
        refine Eq.trans ?_ (storedKeys_call permitted remembers)
        exact congrArg (fun pool => storedKeys cfg pool.shared.db envId) stepped

theorem storedKeys_run (actions : List (ServerAction V)) (sound : RootSound cfg pool) :
    storedKeys cfg ((rootRuns cfg).run pool actions).shared.db envId =
      (committedEdits cfg envId pool actions).foldl RootEdit.apply
        (storedKeys cfg pool.shared.db envId) := by
  induction actions generalizing pool with
  | nil => rfl
  | cons action rest ih =>
      have next : RootSound cfg ((rootRuns cfg).step pool action) :=
        (rootServer cfg).sound_step (rootServer_rules cfg) pool action trivial sound
      rw [committedEdits, List.foldl_append, ← storedKeys_step sound action]
      exact ih next

end Runs

end GreenticDeployer.Server
