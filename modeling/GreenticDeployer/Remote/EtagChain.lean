import GreenticDeployer.Remote.HttpStore

/-!
# The client's etag chain

One store handle works on one environment of a server everyone else uses too: it loads
the document and then makes one call after the other. Beside its cache the document it
decided on is followed: as loaded, then changed by its own accepted mutations alone.
-/

set_option maxHeartbeats 200000

namespace GreenticDeployer.Remote

open Spec Engine Store Trust Lib Server

variable {V : Type}

/-- A call in flight: the task that serves it, and its key. -/
structure Trip where
  index : Nat
  key : String

structure Session (V : Type) where
  store : HttpEnvironmentStore
  pending : Option Trip
  /-- The document as loaded, changed by this client's own accepted mutations alone. -/
  own : V
  /-- What its accepted mutations were applied to, each with what `own` was then. -/
  applied : List (V × V)
  /-- No other client has acted since the load. -/
  alone : Bool

structure ChainState (V : Type) where
  pool : ServerPool V
  session : Option (Session V)

inductive ChainAction (V : Type) where
  | server (action : ServerAction V)
  | load (store : HttpEnvironmentStore)
  | send (key : String) (mutation : Mutation V) (drawn : Head)
  | receive

def replaced (envId : EnvId) (before after : Db V (ResponseBody V)) : Option (V × V) :=
  match before.environments.lookup envId, after.environments.lookup envId with
  | some old, some new => if old.generation = new.generation then none else some (old.data, new.data)
  | _, _ => none

namespace Session

def observe (envId : EnvId) (session : Session V) (action : ServerAction V)
    (before after : Db V (ResponseBody V)) : Session V :=
  match action with
  | .restart _ => session
  | .arrive _ => { session with alone := false }
  | .advance index _ =>
    if session.pending.map (·.index) = some index then
      match replaced envId before after with
      | none => session
      | some (upon, made) =>
        { session with own := made, applied := session.applied ++ [(upon, session.own)] }
    else { session with alone := false }

/-- `load_environment`: the document's etag is cached. -/
def load (cfg : Config V) (envId : EnvId) (store : HttpEnvironmentStore)
    (db : Db V (ResponseBody V)) : Option (Session V) :=
  match Store.loadEnv cfg.json cfg.ext db envId, db.environments.lookup envId with
  | .ok loaded, some row =>
    some ⟨store.rememberEtag envId (some loaded.revision.etag), none, row.data, [], true⟩
  | _, _ => none

def reply (session : Session V) (pool : ServerPool V) :
    Option (String × Except RemoteStoreError (Response V)) := do
  let trip ← session.pending
  let task ← pool.tasks[trip.index]?
  match task.program with
  | .done reply => some (trip.key, reply)
  | .call .. => none

end Session

namespace ChainState

variable (cfg : Config V) (envId : EnvId) (state : ChainState V)

def serve (action : ServerAction V) : ChainState V :=
  let pool := (server cfg).step state.pool action
  ⟨pool, state.session.map fun session =>
    session.observe envId action state.pool.shared.db pool.shared.db⟩

def send (key : String) (mutation : Mutation V) (drawn : Head) : ChainState V :=
  match state.session with
  | none => state
  | some session =>
    ⟨(server cfg).step state.pool (.arrive (session.store.request envId key mutation drawn)),
      some { session with pending := some ⟨state.pool.tasks.length, key⟩ }⟩

def receive : ChainState V :=
  match state.session with
  | none => state
  | some session =>
    match session.reply state.pool with
    | none => state
    | some (key, reply) =>
      { state with session := some { session with
        store := (session.store.settle envId key reply).2, pending := none } }

variable {cfg envId state} {session : Session V} {key : String}

theorem send_some (mutation : Mutation V) (drawn : Head) (present : state.session = some session) :
    state.send cfg envId key mutation drawn =
      ⟨(server cfg).step state.pool (.arrive (session.store.request envId key mutation drawn)),
        some { session with pending := some ⟨state.pool.tasks.length, key⟩ }⟩ := by
  simp only [send, present]

theorem receive_some {reply : Except RemoteStoreError (Response V)}
    (present : state.session = some session)
    (answered : session.reply state.pool = some (key, reply)) :
    state.receive envId = { state with session := some { session with
      store := (session.store.settle envId key reply).2, pending := none } } := by
  simp only [receive, present, answered]

end ChainState

def requestKey (request : Request V) : Option String :=
  (requireIdempotencyKey request.head.headers).toOption.map (·.asStr)

/-- What others may do while a call is in flight: they do not use its key, and the server
does not drop it. -/
def Spares (trip : Trip) : ServerAction V → Prop
  | .arrive request => requestKey request ≠ some trip.key
  | .advance .. => True
  | .restart _ => False

def Fresh (envId : EnvId) (pool : ServerPool V) (key : String) : Prop :=
  (∀ task ∈ pool.tasks, requestKey task.tag ≠ some key) ∧
    ∀ row ∈ pool.shared.db.idempotencyLedger, row.key ≠ (envId, key)

/-- A call on this environment: an edit whose path names it. -/
def Calls (cfg : Config V) (envId : EnvId) (session : Session V) (key : String)
    (mutation : Mutation V) (drawn : Head) : Prop :=
  mutation.edits = true ∧
    ∀ ctx ∈ (session.store.request envId key mutation drawn).admission cfg, ctx.envId = envId

def Succeeded (envId : EnvId) (pool : ServerPool V) (session : Session V) : Prop :=
  ∃ answer ∈ session.reply pool, (session.store.settle envId answer.1 answer.2).1.isOk = true

/-- One client's load and calls, each with a fresh key and none failing, among everyone
else's requests. -/
def chain (cfg : Config V) (envId : EnvId) : System (ChainState V) (ChainAction V) where
  step := fun state action =>
    match action with
    | .server action => state.serve cfg envId action
    | .load store => { state with session := Session.load cfg envId store state.pool.shared.db }
    | .send key mutation drawn => state.send cfg envId key mutation drawn
    | .receive => state.receive envId
  allowed := fun state action =>
    match action with
    | .server action => ∀ session ∈ state.session, ∀ trip ∈ session.pending, Spares trip action
    | .load _ => state.session.isNone = true
    | .send key mutation drawn => Fresh envId state.pool key ∧ ∀ session ∈ state.session,
        session.pending.isNone = true ∧ Calls cfg envId session key mutation drawn
    | .receive => ∀ session ∈ state.session, Succeeded envId state.pool session

instance (trip : Trip) : ∀ action : ServerAction V, Decidable (Spares trip action)
  | .arrive request => inferInstanceAs (Decidable (requestKey request ≠ some trip.key))
  | .advance .. => .isTrue trivial
  | .restart _ => .isFalse id

instance (envId : EnvId) (pool : ServerPool V) (key : String) : Decidable (Fresh envId pool key) :=
  inferInstanceAs (Decidable (_ ∧ _))

instance (cfg : Config V) (envId : EnvId) (session : Session V) (key : String)
    (mutation : Mutation V) (drawn : Head) :
    Decidable (Calls cfg envId session key mutation drawn) :=
  inferInstanceAs (Decidable (_ ∧ _))

instance (envId : EnvId) (pool : ServerPool V) (session : Session V) :
    Decidable (Succeeded envId pool session) :=
  inferInstanceAs (Decidable (∃ answer ∈ session.reply pool, _))

instance (cfg : Config V) (envId : EnvId) (state : ChainState V) :
    ∀ action, Decidable ((chain cfg envId).allowed state action)
  | .server action => inferInstanceAs
      (Decidable (∀ session ∈ state.session, ∀ trip ∈ session.pending, Spares trip action))
  | .load _ => inferInstanceAs (Decidable (state.session.isNone = true))
  | .send key mutation drawn => inferInstanceAs (Decidable (Fresh envId state.pool key ∧
      ∀ session ∈ state.session, session.pending.isNone = true ∧
        Calls cfg envId session key mutation drawn))
  | .receive => inferInstanceAs
      (Decidable (∀ session ∈ state.session, Succeeded envId state.pool session))

def offline (maxRows : Option UInt32) : ChainState V := ⟨boot maxRows, none⟩

/-- What a run of the server makes sure of, whatever its requests. -/
structure Served (cfg : Config V) (pool : ServerPool V) : Prop where
  sound : KeepsDocuments cfg pool
  isSealed : Sealed cfg pool.shared.db
  speaks : ∀ task ∈ pool.tasks, ∀ ctx, task.tag.admission cfg = some ctx →
    task.program.Obeys (Speaks cfg) Server.learn (fun _ _ => True) task.known
  heeds : ∀ task ∈ pool.tasks, ∀ ctx etag, task.tag.admission cfg = some ctx →
    task.tag.ifMatch = some etag →
    Heeds etag task.tag.bare (failedOrReplayed ctx) task.known task.program
  fails : ∀ task ∈ pool.tasks, ∀ mutation, task.tag.route = .mutate mutation →
    task.tag.admission cfg = none → Fails task.known task.program

theorem served_run (cfg : Config V) (maxRows : Option UInt32) (actions : List (ServerAction V)) :
    Served cfg ((serverRuns cfg).run (boot maxRows) actions) where
  sound := updates_sound cfg maxRows actions
  isSealed := sealed_run cfg maxRows actions
  speaks := (server cfg).tasks_run
    (fun request k program => ∀ ctx, request.admission cfg = some ctx →
      program.Obeys (Speaks cfg) Server.learn (fun _ _ => True) k)
    (fun _ _ admitted => serve_speaks admitted)
    (fun _ _ _ _ reply held ctx admitted => (held ctx admitted).2 reply)
    (boot maxRows).shared actions
  heeds := (server cfg).tasks_run
    (fun request k program => ∀ ctx etag, request.admission cfg = some ctx →
      request.ifMatch = some etag → Heeds etag request.bare (failedOrReplayed ctx) k program)
    (fun _ _ _ admitted carried => serve_heeds admitted carried)
    (fun _ _ _ _ reply held ctx etag admitted carried =>
      (held ctx etag admitted carried).2.2 reply)
    (boot maxRows).shared actions
  fails := fails_run cfg maxRows actions

def etagOf (cfg : Config V) (data : V) : StateEtag := ⟨cfg.json.sha256Of data⟩

/-- Whatever a request knows of the document it has at this etag. -/
structure KnownAt (k : Known V) (etag : StateEtag) : Prop where
  loaded : ∀ loaded, k.loaded = some loaded → loaded.revision.etag = etag
  captured : ∀ captured, k.captured = some captured → captured.2.etag = etag

theorem KnownAt.revision {k : Known V} {etag : StateEtag} {revision : EnvRevision}
    (at_ : KnownAt k etag) (known : k.revision = some revision) : revision.etag = etag := by
  unfold Known.revision at known
  split at known
  · rename_i loaded present
    cases known
    exact at_.loaded loaded present
  · obtain ⟨captured, present, rfl⟩ := Option.map_eq_some_iff.mp known
    exact at_.captured captured present

theorem KnownAt.learn {cfg : Config V} {request : Request V} {ctx : Context} {k : Known V}
    {db : Db V (ResponseBody V)} {input : StoreInput} {call : Call V} {row : DocRow V}
    (at_ : KnownAt k row.etag) (admitted : request.admission cfg = some ctx)
    (permitted : permits cfg request k call)
    (present : db.environments.lookup ctx.envId = some row) :
    KnownAt (Server.learn k call (execute cfg.json cfg.ext input db call).1) row.etag := by
  have allowed := permits_of_admission permitted admitted
  have learned := learns cfg input db k call
  constructor
  · intro loaded known
    rcases learned.loaded with same | ⟨envId, copy, rfl, returned, copied⟩
    · exact at_.loaded loaded (same ▸ known)
    · cases allowed
      cases copied.symm.trans known
      obtain ⟨_, found, stored, revision⟩ := loadEnv_ok returned
      cases present.symm.trans stored
      rw [revision]
      rfl
  · intro captured known
    rcases learned.captured with same | ⟨envId, copy, rfl, returned, copied⟩
    · exact at_.captured captured (same ▸ known)
    · cases allowed
      cases copied.symm.trans known
      unfold loadEnvSnapshot at returned
      rw [present] at returned
      cases returned
      rfl

/-- How far the call in flight has come: without its row in the ledger and under the etag
of the document it was decided on, or committed, its response naming the document's etag
as it then is. -/
structure Underway (cfg : Config V) (envId : EnvId) (pool : ServerPool V) (session : Session V)
    (trip : Trip) (task : ServerTask V) : Prop where
  found : pool.tasks[trip.index]? = some task
  asked : ∃ mutation drawn, mutation.edits = true ∧
    task.tag = session.store.request envId trip.key mutation drawn
  targets : ∀ ctx, task.tag.admission cfg = some ctx → ctx.envId = envId
  others : ∀ index other, index ≠ trip.index → pool.tasks[index]? = some other →
    requestKey other.tag ≠ some trip.key
  unreplayed : task.known.found = none
  waiting : task.known.committed = none →
    (∀ row ∈ pool.shared.db.idempotencyLedger, row.key ≠ (envId, trip.key)) ∧
      session.store.cachedEtag.lookup envId = some (etagOf cfg session.own)
  committed : ∀ journal, task.known.committed = some journal →
    Reports journal.responseBody (etagOf cfg session.own)
  alone : session.alone = true → Unrefused cfg task.tag pool.shared.auditCap task.known
    pool.shared.db (ExceptT.mk task.program)
  current : session.alone = true → ∀ ctx, task.tag.admission cfg = some ctx →
    task.known.committed = none → KnownAt task.known (etagOf cfg session.own)

structure Linked (cfg : Config V) (envId : EnvId) (pool : ServerPool V) (session : Session V) :
    Prop where
  present : ∃ row, pool.shared.db.environments.lookup envId = some row ∧
    (session.alone = true → row.data = session.own)
  idle : session.pending = none →
    session.store.cachedEtag.lookup envId = some (etagOf cfg session.own)
  underway : ∀ trip, session.pending = some trip → ∃ task,
    Underway cfg envId pool session trip task
  applied : ∀ pair ∈ session.applied, etagOf cfg pair.1 = etagOf cfg pair.2

theorem requestKey_admitted {cfg : Config V} {request : Request V} {ctx : Context}
    (admitted : request.admission cfg = some ctx) :
    requestKey request = some ctx.idemKey.asStr := by
  obtain ⟨mutation, handler, body, routed, built, admits, _⟩ := Request.admission_some admitted
  unfold Handler.clears at admits
  split at admits
  · rename_i auth idemKey entered authorized keyed bodied
    cases admits
    simp only [requestKey, keyed, Except.toOption, Option.map_some]
  · cases admits

section Turns

variable {cfg : Config V} {envId : EnvId} {pool : ServerPool V} {session : Session V}

theorem Served.effect (served : Served cfg pool) {index : Nat} {task : ServerTask V} {call : Call V}
    {next : call.Reply → Serving V} (found : pool.tasks[index]? = some task)
    (program : task.program = .call call next) (now : Timestamp) :
    permits cfg task.tag task.known call ∧
      Effect cfg task.tag task.known now pool.shared call
        (execute cfg.json cfg.ext ⟨pool.shared.auditCap, now⟩ pool.shared.db call).1
        (execute cfg.json cfg.ext ⟨pool.shared.auditCap, now⟩ pool.shared.db call).2 := by
  obtain ⟨permitted, _⟩ := served.sound.acting found program
  exact ⟨permitted, effect_of_permitted now pool.shared permitted⟩

theorem ledger_spared {request : Request V} {k : Known V} {now : Timestamp}
    {state : ServerState V} {call : Call V} {reply : call.Reply} {after : Db V (ResponseBody V)}
    {key : String} (effect : Effect cfg request k now state call reply after)
    (other : requestKey request ≠ some key)
    (free : ∀ row ∈ state.db.idempotencyLedger, row.key ≠ (envId, key)) :
    ∀ row ∈ after.idempotencyLedger, row.key ≠ (envId, key) := by
  rcases effect.ledger with same | ⟨ctx, journal, admitted, journaled, inserted, _⟩
  · rw [same]
    exact free
  · obtain ⟨_, evicted⟩ := insertLedger_ok inserted
    intro row member
    rw [evicted] at member
    have among : row ∈ state.db.idempotencyLedger ++ [journal.ledgerRow] :=
      (dropOldest_sublist _ _ _).subset member
    rcases List.mem_append.mp among with old | new
    · exact free row old
    · rw [List.mem_singleton.mp new]
      intro named
      have own : journal.idempotencyKey = key := congrArg Prod.snd named
      rw [journaled.key] at own
      exact other (own ▸ requestKey_admitted admitted)

theorem Underway.others_turn {trip : Trip} {task : ServerTask V} {shared : ServerState V}
    {tasks : List (ServerTask V)} (underway : Underway cfg envId pool session trip task)
    (kept : tasks[trip.index]? = pool.tasks[trip.index]?)
    (others : ∀ index other, index ≠ trip.index → tasks[index]? = some other →
      requestKey other.tag ≠ some trip.key)
    (spared : (∀ row ∈ pool.shared.db.idempotencyLedger, row.key ≠ (envId, trip.key)) →
      ∀ row ∈ shared.db.idempotencyLedger, row.key ≠ (envId, trip.key)) :
    Underway cfg envId ⟨shared, tasks⟩ { session with alone := false } trip task where
  found := kept.trans underway.found
  asked := underway.asked
  targets := underway.targets
  others := others
  unreplayed := underway.unreplayed
  waiting := fun free => ⟨spared (underway.waiting free).1, (underway.waiting free).2⟩
  committed := underway.committed
  alone := fun alone => by cases alone
  current := fun alone => by cases alone

theorem Linked.others_turn (served : Served cfg pool) (linked : Linked cfg envId pool session)
    {index : Nat} {now : Timestamp} (foreign : session.pending.map (·.index) ≠ some index) :
    Linked cfg envId ((server cfg).step pool (.advance index now))
      { session with alone := false } := by
  rcases (server cfg).step_advance pool index now with
    ⟨same, _⟩ | ⟨task, call, next, found, program, stepped⟩
  · rw [same]
    refine ⟨?_, linked.idle, ?_, linked.applied⟩
    · obtain ⟨row, present, _⟩ := linked.present
      exact ⟨row, present, fun alone => by cases alone⟩
    · intro trip pending
      obtain ⟨task, underway⟩ := linked.underway trip pending
      exact ⟨task, underway.others_turn rfl underway.others id⟩
  · obtain ⟨_, effect⟩ := served.effect found program now
    rw [stepped]
    refine ⟨?_, linked.idle, ?_, linked.applied⟩
    · obtain ⟨row, present, _⟩ := linked.present
      obtain ⟨later, still, _⟩ := (effect.environments envId).grows row present
      exact ⟨later, still, fun alone => by cases alone⟩
    · intro trip pending
      obtain ⟨own, underway⟩ := linked.underway trip pending
      have apart : index ≠ trip.index := by
        rintro rfl
        exact foreign (by rw [pending]; rfl)
      have unused : requestKey task.tag ≠ some trip.key :=
        underway.others index task apart found
      refine ⟨own, underway.others_turn (List.getElem?_set_ne apart) ?_ ?_⟩
      · intro position other elsewhere there
        rcases Nat.decEq index position with different | rfl
        · rw [List.getElem?_set_ne different] at there
          exact underway.others position other elsewhere there
        · rw [List.getElem?_set_self (List.getElem?_eq_some_iff.mp found).1] at there
          cases there
          exact unused
      · exact ledger_spared effect unused

theorem requestKey_request {store : HttpEnvironmentStore} {key carried : String}
    {mutation : Mutation V} {drawn : Head}
    (keyed : requestKey (store.request envId key mutation drawn) = some carried) :
    carried = key := by
  unfold requestKey requireIdempotencyKey at keyed
  simp only [HttpEnvironmentStore.request, HttpEnvironmentStore.headers, Option.bind_some,
    HeaderValue.toStr] at keyed
  split at keyed
  · split at keyed
    · cases keyed
    · cases keyed
      rfl
  · cases keyed

theorem Underway.keyed {trip : Trip} {task : ServerTask V} {ctx : Context}
    (underway : Underway cfg envId pool session trip task)
    (admitted : task.tag.admission cfg = some ctx) :
    ctx.envId = envId ∧ ctx.idemKey.asStr = trip.key := by
  obtain ⟨mutation, drawn, _, own⟩ := underway.asked
  have keyed := requestKey_admitted admitted
  rw [own] at keyed
  exact ⟨underway.targets ctx admitted, requestKey_request keyed⟩

/-- Its key has no row, so no look at the ledger answers it. -/
theorem Underway.not_replayed {trip : Trip} {task : ServerTask V} {call : Call V} {now : Timestamp}
    (underway : Underway cfg envId pool session trip task)
    (permitted : permits cfg task.tag task.known call) :
    (Server.learn task.known call (execute cfg.json cfg.ext ⟨pool.shared.auditCap, now⟩
      pool.shared.db call).1).found = none := by
  rcases (learns cfg ⟨pool.shared.auditCap, now⟩ pool.shared.db task.known call).found with
    same | ⟨other, key, record, rfl, looked, _⟩
  · exact same.trans underway.unreplayed
  · exfalso
    obtain ⟨_, free, may⟩ := permitted
    cases admission : task.tag.admission cfg with
    | none =>
        rw [admission] at may
        rcases may with ⟨_, _, _, audit⟩ | ⟨_, _, load⟩
        · cases audit
        · cases load
    | some ctx =>
        rw [admission] at may
        obtain ⟨here, mine⟩ := underway.keyed admission
        cases may with
        | lookup =>
            unfold lookupIdempotency at looked
            obtain ⟨row, first, _⟩ := Option.map_eq_some_iff.mp looked
            have matched : row.envId = ctx.envId ∧ row.idempotencyKey = ctx.idemKey.asStr := by
              simpa [LedgerRow.isFor] using List.find?_some first
            refine (underway.waiting free).1 row (List.mem_of_find?_eq_some first) ?_
            rw [← here, ← mine, ← matched.1, ← matched.2]
            rfl

theorem uncommitted_turn {request : Request V} {k : Known V} {now : Timestamp}
    {state : ServerState V} {call : Call V} {reply : call.Reply} {after : Db V (ResponseBody V)}
    (effect : Effect cfg request k now state call reply after)
    (open_ : (Server.learn k call reply).committed = none) :
    after.environments = state.db.environments ∧
      after.idempotencyLedger = state.db.idempotencyLedger := by
  cases effect with
  | quiet same kept => exact ⟨by rw [same], by rw [same]⟩
  | denial refused appended same kept => exact ⟨by rw [same]; rfl, by rw [same]; rfl⟩
  | commit admitted drafts journaled wrote learned =>
      rw [learned] at open_
      cases open_

theorem committed_admitted {request : Request V} {k : Known V} {now : Timestamp}
    {state : ServerState V} {call : Call V} {reply : call.Reply} {after : Db V (ResponseBody V)}
    {journal : Journal V} (effect : Effect cfg request k now state call reply after)
    (committed : (Server.learn k call reply).committed = some journal) (free : k.committed = none) :
    ∃ ctx, request.admission cfg = some ctx := by
  cases effect with
  | quiet same kept =>
      rw [kept] at committed
      cases committed
  | denial refused appended same kept =>
      rw [kept, free] at committed
      cases committed
  | commit admitted drafts journaled wrote learned => exact ⟨_, admitted⟩

def turned (cfg : Config V) (pool : ServerPool V) (index : Nat) (now : Timestamp)
    (task : ServerTask V) (call : Call V) (next : call.Reply → Serving V) : ServerPool V :=
  let outcome := execute cfg.json cfg.ext ⟨pool.shared.auditCap, now⟩ pool.shared.db call
  ⟨{ pool.shared with db := outcome.2 },
    pool.tasks.set index ⟨task.tag, Server.learn task.known call outcome.1, next outcome.1⟩⟩

variable {trip : Trip} {task : ServerTask V} {call : Call V} {next : call.Reply → Serving V}
variable {now : Timestamp}

/-- What a turn of the call in flight leaves of it, given where the store and the document
then are. -/
theorem Underway.own_turn {later : Session V}
    (underway : Underway cfg envId pool session trip task)
    (program : task.program = .call call next) (permitted : permits cfg task.tag task.known call)
    (store : later.store = session.store) (alone : later.alone = session.alone)
    (waiting : (Server.learn task.known call (execute cfg.json cfg.ext
        ⟨pool.shared.auditCap, now⟩ pool.shared.db call).1).committed = none →
      (∀ row ∈ (execute cfg.json cfg.ext ⟨pool.shared.auditCap, now⟩ pool.shared.db
        call).2.idempotencyLedger, row.key ≠ (envId, trip.key)) ∧
        session.store.cachedEtag.lookup envId = some (etagOf cfg later.own))
    (committed : ∀ journal, (Server.learn task.known call (execute cfg.json cfg.ext
        ⟨pool.shared.auditCap, now⟩ pool.shared.db call).1).committed = some journal →
      Reports journal.responseBody (etagOf cfg later.own))
    (current : session.alone = true → ∀ ctx, task.tag.admission cfg = some ctx →
      (Server.learn task.known call (execute cfg.json cfg.ext
        ⟨pool.shared.auditCap, now⟩ pool.shared.db call).1).committed = none →
      KnownAt (Server.learn task.known call (execute cfg.json cfg.ext
        ⟨pool.shared.auditCap, now⟩ pool.shared.db call).1) (etagOf cfg later.own)) :
    ∃ task', Underway cfg envId (turned cfg pool trip.index now task call next) later trip
      task' := by
  have bound := (List.getElem?_eq_some_iff.mp underway.found).1
  refine ⟨_, List.getElem?_set_self bound, ?_, underway.targets, ?_,
    underway.not_replayed permitted, ?_, committed, ?_, fun still => current (alone ▸ still)⟩
  · rw [store]
    exact underway.asked
  · intro index other elsewhere there
    rw [turned, List.getElem?_set_ne (Ne.symm elsewhere)] at there
    exact underway.others index other elsewhere there
  · rw [store]
    exact waiting
  · intro still
    have before := underway.alone (alone ▸ still)
    rw [program] at before
    exact before permitted now

theorem Underway.told {later : Session V} (underway : Underway cfg envId pool session trip task)
    (program : task.program = .call call next) (permitted : permits cfg task.tag task.known call)
    (store : later.store = session.store) (alone : later.alone = session.alone)
    {journal : Journal V} (committed : (Server.learn task.known call
      (execute cfg.json cfg.ext ⟨pool.shared.auditCap, now⟩ pool.shared.db call).1).committed =
        some journal)
    (reports : Reports journal.responseBody (etagOf cfg later.own)) :
    ∃ task', Underway cfg envId (turned cfg pool trip.index now task call next) later trip
      task' := by
  refine underway.own_turn program permitted store alone ?_ ?_ ?_
  · intro open_
    cases committed.symm.trans open_
  · intro other made
    cases committed.symm.trans made
    exact reports
  · intro _ _ _ open_
    cases committed.symm.trans open_

theorem replaced_same {before after : Db V (ResponseBody V)}
    (same : after.environments = before.environments) : replaced envId before after = none := by
  unfold replaced
  rw [same]
  cases before.environments.lookup envId with
  | none => rfl
  | some row => simp only [if_true]

theorem replaced_next {before after : Db V (ResponseBody V)} {old new : DocRow V}
    (was : before.environments.lookup envId = some old)
    (is : after.environments.lookup envId = some new)
    (next : new.generation = old.generation + 1) :
    replaced envId before after = some (old.data, new.data) := by
  have differs : old.generation ≠ new.generation := by omega
  simp only [replaced, was, is, if_neg differs]

theorem Underway.ifMatch {mutation : Mutation V} {etag : StateEtag}
    (underway : Underway cfg envId pool session trip task)
    (routed : task.tag.route = .mutate mutation) (reads : mutation.readsIfMatch = true)
    (cached : session.store.cachedEtag.lookup envId = some etag) :
    task.tag.ifMatch = some etag := by
  obtain ⟨own, drawn, _, asked⟩ := underway.asked
  have asks : task.tag.mutation = some mutation := by
    simp only [Request.mutation, routed]
  have headers : task.tag.head.headers = session.store.headers envId trip.key := by
    rw [asked]
    rfl
  simp only [Request.ifMatch, asks, reads, if_true, headers, parseIfMatch_headers, cached,
    Except.toOption, Option.join_some]

theorem Underway.writes (served : Served cfg pool)
    (underway : Underway cfg envId pool session trip task)
    (program : task.program = .call call next) {ctx : Context} {mutation : Mutation V}
    {old new : DocRow V} {journal : Journal V} (admitted : task.tag.admission cfg = some ctx)
    (routed : task.tag.route = .mutate mutation) (reads : mutation.readsIfMatch = true)
    (was : pool.shared.db.environments.lookup envId = some old)
    (is : (execute cfg.json cfg.ext ⟨pool.shared.auditCap, now⟩ pool.shared.db
      call).2.environments.lookup envId = some new)
    (moved : new.generation = old.generation + 1)
    (committed : (Server.learn task.known call (execute cfg.json cfg.ext
      ⟨pool.shared.auditCap, now⟩ pool.shared.db call).1).committed = some journal) :
    etagOf cfg old.data = etagOf cfg session.own := by
  have member := List.mem_of_getElem? underway.found
  obtain ⟨permitted, remembers⟩ := served.sound.acting underway.found program
  have cached := (underway.waiting permitted.2.1).2
  have heeds := served.heeds task member ctx _ admitted (underway.ifMatch routed reads cached)
  rw [program] at heeds
  have here := (underway.keyed admitted).1
  rcases minds_committed admitted remembers permitted heeds.1 committed with met | ⟨same, _⟩
  · rw [here, currentEtag, was, Option.map_some] at met
    have digest : old.etag = etagOf cfg old.data := served.isSealed envId old was
    rw [← digest]
    exact Option.some.inj met
  · rw [same, was] at is
    cases is
    omega

/-- What the guard asks of a call: where it would commit without writing the document, it
was loaded at the etag the client has cached. -/
abbrev HeldAt (store : HttpEnvironmentStore) (envId : EnvId) (k : Known V) (call : Call V) : Prop :=
  echoes call = true → store.cachedEtag.lookup envId = k.revision.map (·.etag)

theorem observe_same {before after : Db V (ResponseBody V)} {index : Nat}
    (mine : session.pending.map (·.index) = some index)
    (same : after.environments = before.environments) :
    session.observe envId (.advance index now) before after = session := by
  simp only [Session.observe, if_pos mine, replaced_same same]

theorem observe_next {before after : Db V (ResponseBody V)} {old new : DocRow V} {index : Nat}
    (mine : session.pending.map (·.index) = some index)
    (was : before.environments.lookup envId = some old)
    (is : after.environments.lookup envId = some new)
    (next : new.generation = old.generation + 1) :
    session.observe envId (.advance index now) before after =
      { session with own := new.data, applied := session.applied ++ [(old.data, session.own)] } := by
  simp only [Session.observe, if_pos mine, replaced_next was is next]

theorem Underway.reported (served : Served cfg pool)
    (underway : Underway cfg envId pool session trip task)
    (program : task.program = .call call next)
    (present : pool.shared.db.environments.lookup envId ≠ none) {journal : Journal V}
    (committed : (Server.learn task.known call (execute cfg.json cfg.ext
      ⟨pool.shared.auditCap, now⟩ pool.shared.db call).1).committed = some journal) :
    ∃ ctx, task.tag.admission cfg = some ctx ∧ Reported task.tag task.known call envId
      pool.shared.db (execute cfg.json cfg.ext ⟨pool.shared.auditCap, now⟩ pool.shared.db call).2
      journal := by
  have member := List.mem_of_getElem? underway.found
  obtain ⟨permitted, effect⟩ := served.effect underway.found program now
  obtain ⟨_, remembers⟩ := served.sound.acting underway.found program
  obtain ⟨ctx, admitted⟩ := committed_admitted effect committed permitted.2.1
  obtain ⟨mutation, drawn, edits, asked⟩ := underway.asked
  have routed : task.tag.route = .mutate mutation := by
    rw [asked]
    rfl
  have speaks := served.speaks task member ctx admitted
  rw [program] at speaks
  have here := underway.targets ctx admitted
  refine ⟨ctx, admitted, ?_⟩
  rw [← here] at present ⊢
  exact effect.reported admitted routed (fun _ _ _ same => by rw [same] at edits; cases edits)
    (fun _ _ same => by rw [same] at edits; cases edits) remembers speaks.1 present permitted.2.1
    committed

theorem Underway.learns_current (served : Served cfg pool)
    (underway : Underway cfg envId pool session trip task) {row : DocRow V}
    (permitted : permits cfg task.tag task.known call)
    (present : pool.shared.db.environments.lookup envId = some row)
    (alike : session.alone = true → row.data = session.own) (alone : session.alone = true)
    {ctx : Context} (admitted : task.tag.admission cfg = some ctx) :
    KnownAt (Server.learn task.known call (execute cfg.json cfg.ext
      ⟨pool.shared.auditCap, now⟩ pool.shared.db call).1) (etagOf cfg session.own) := by
  have digest : row.etag = etagOf cfg row.data := served.isSealed envId row present
  have known := underway.current alone ctx admitted permitted.2.1
  rw [← alike alone, ← digest] at known ⊢
  rw [← underway.targets ctx admitted] at present
  exact known.learn admitted permitted present

/-- A turn of the call in flight: it leaves the document and what is cached of it, or it
replaces a document with the digest of the one it was decided on. -/
theorem Linked.own_turn (served : Served cfg pool) (linked : Linked cfg envId pool session)
    (pending : session.pending = some trip)
    (heedful : session.alone = false → ∀ task ∈ pool.tasks[trip.index]?,
      task.program.First (HeldAt session.store envId task.known)) :
    Linked cfg envId ((server cfg).step pool (.advance trip.index now))
      (session.observe envId (.advance trip.index now) pool.shared.db
        ((server cfg).step pool (.advance trip.index now)).shared.db) := by
  have mine : session.pending.map (·.index) = some trip.index := by rw [pending]; rfl
  obtain ⟨task, underway⟩ := linked.underway trip pending
  rcases (server cfg).step_advance pool trip.index now with
    ⟨same, _⟩ | ⟨other, call, next, found, program, stepped⟩
  · rw [same, observe_same mine rfl]
    exact linked
  cases underway.found.symm.trans found
  have stepped : (server cfg).step pool (.advance trip.index now) =
      turned cfg pool trip.index now task call next := stepped
  obtain ⟨permitted, effect⟩ := served.effect found program now
  obtain ⟨row, present, alike⟩ := linked.present
  have waiting := underway.waiting permitted.2.1
  rw [stepped]
  change Linked cfg envId _ (session.observe envId (.advance trip.index now) pool.shared.db
    (execute cfg.json cfg.ext ⟨pool.shared.auditCap, now⟩ pool.shared.db call).2)
  cases committed : (Server.learn task.known call (execute cfg.json cfg.ext
      ⟨pool.shared.auditCap, now⟩ pool.shared.db call).1).committed with
  | none =>
      obtain ⟨documents, ledger⟩ := uncommitted_turn effect committed
      rw [observe_same mine documents]
      refine ⟨⟨row, ?_, alike⟩, fun idle => absurd (pending.symm.trans idle) nofun, ?_,
        linked.applied⟩
      · exact (congrArg (AList.lookup envId) documents).trans present
      · intro other same
        cases pending.symm.trans same
        refine underway.own_turn program permitted rfl rfl (fun _ => ⟨?_, waiting.2⟩) ?_ ?_
        · rw [ledger]
          exact waiting.1
        · intro journal made
          cases committed.symm.trans made
        · intro alone ctx admitted _
          exact underway.learns_current served permitted present alike alone admitted
  | some journal =>
      obtain ⟨ctx, admitted, reported⟩ :=
        underway.reported served program (by rw [present]; nofun) committed
      cases reported with
      | @echoed revision bare documents known told =>
          have met : revision.etag = etagOf cfg session.own := by
            cases alone : session.alone with
            | true =>
                exact (underway.current alone ctx admitted permitted.2.1).revision known
            | false =>
                have held := heedful alone task found
                rw [program] at held
                have cached := held bare
                rw [known, waiting.2] at cached
                exact (Option.some.inj cached).symm
          rw [met] at told
          rw [observe_same mine documents]
          refine ⟨⟨row, ?_, alike⟩, fun idle => absurd (pending.symm.trans idle) nofun, ?_,
            linked.applied⟩
          · exact (congrArg (AList.lookup envId) documents).trans present
          · intro other same
            cases pending.symm.trans same
            exact underway.told program permitted rfl rfl committed told
      | @wrote mutation old new routed reads was is moved told =>
          have met := underway.writes served program admitted routed reads was is moved committed
          have digest : new.etag = etagOf cfg new.data := effect.sealed served.isSealed envId new is
          rw [observe_next mine was is moved]
          refine ⟨⟨new, is, fun _ => rfl⟩, fun idle => absurd (pending.symm.trans idle) nofun, ?_,
            ?_⟩
          · intro other same
            cases pending.symm.trans same
            exact underway.told program permitted rfl rfl committed (digest ▸ told)
          · intro pair among
            rcases List.mem_append.mp among with before | last
            · exact linked.applied pair before
            · rw [List.mem_singleton.mp last]
              exact met

end Turns

section Steps

variable {cfg : Config V} {envId : EnvId} {pool : ServerPool V} {session : Session V}

theorem arrived {α : Type} {tasks : List α} {new other : α} {index : Nat}
    (there : (tasks ++ [new])[index]? = some other) :
    tasks[index]? = some other ∨ index = tasks.length ∧ other = new := by
  rcases Nat.lt_or_ge index tasks.length with before | after
  · rw [List.getElem?_append_left before] at there
    exact .inl there
  · rw [List.getElem?_append_right after] at there
    obtain ⟨bound, same⟩ := List.getElem?_eq_some_iff.mp there
    have last : index = tasks.length := by simp at bound; omega
    exact .inr ⟨last, by simpa [last] using same.symm⟩

theorem Linked.arrive (linked : Linked cfg envId pool session) (request : Request V)
    (spares : ∀ trip ∈ session.pending, requestKey request ≠ some trip.key) :
    Linked cfg envId ((server cfg).step pool (.arrive request)) { session with alone := false } := by
  obtain ⟨row, present, _⟩ := linked.present
  refine ⟨⟨row, present, fun alone => by cases alone⟩, linked.idle, ?_, linked.applied⟩
  intro trip pending
  obtain ⟨task, underway⟩ := linked.underway trip pending
  have bound := (List.getElem?_eq_some_iff.mp underway.found).1
  refine ⟨task, underway.others_turn (List.getElem?_append_left bound) ?_ id⟩
  intro index other elsewhere there
  rcases arrived there with old | ⟨_, rfl⟩
  · exact underway.others index other elsewhere old
  · exact spares trip pending

theorem Linked.restart (linked : Linked cfg envId pool session) (event : Option UInt32 × Timestamp)
    (idle : session.pending = none) :
    Linked cfg envId ((server cfg).step pool (.restart event)) session := by
  obtain ⟨row, present, alike⟩ := linked.present
  have tables := reconcileAuditRetention_sameTables pool.shared.db (auditCapOf event.1) event.2
  refine ⟨⟨row, ?_, alike⟩, linked.idle, ?_, linked.applied⟩
  · exact (congrArg (AList.lookup envId) tables.environments).trans present
  · intro trip pending
    cases idle.symm.trans pending

theorem Linked.load (served : Served cfg pool) {store : HttpEnvironmentStore}
    (loaded : Session.load cfg envId store pool.shared.db = some session) :
    Linked cfg envId pool session := by
  unfold Session.load at loaded
  split at loaded
  · rename_i copy row returned present
    cases loaded
    obtain ⟨_, stored, found, revision⟩ := loadEnv_ok returned
    cases present.symm.trans found
    have digest : row.etag = etagOf cfg row.data := served.isSealed envId row present
    refine ⟨⟨row, present, fun _ => rfl⟩, fun _ => ?_, nofun, nofun⟩
    rw [← digest]
    show (store.rememberEtag envId (some copy.revision.etag)).cachedEtag.lookup envId = _
    rw [HttpEnvironmentStore.rememberEtag_some, revision]
    rfl
  · cases loaded

theorem Linked.send (served : Served cfg pool) (linked : Linked cfg envId pool session)
    {key : String} {mutation : Mutation V} {drawn : Head} (fresh : Fresh envId pool key)
    (idle : session.pending = none) (calls : Calls cfg envId session key mutation drawn) :
    Linked cfg envId
      ((server cfg).step pool (.arrive (session.store.request envId key mutation drawn)))
      { session with pending := some ⟨pool.tasks.length, key⟩ } := by
  obtain ⟨row, present, alike⟩ := linked.present
  obtain ⟨edits, targets⟩ := calls
  have cached := linked.idle idle
  have unrefused (alone : session.alone = true) : Unrefused cfg
      (session.store.request envId key mutation drawn) pool.shared.auditCap Known.nothing
      pool.shared.db (ExceptT.mk (serve cfg (session.store.request envId key mutation drawn))) := by
    refine serve_unrefused rfl edits ?_
    intro ctx etag admitted parsed
    have carried : parseIfMatch (session.store.headers envId key) = .ok (some etag) := parsed
    rw [parseIfMatch_headers, cached] at carried
    have digest : row.etag = etagOf cfg row.data := served.isSealed envId row present
    rw [targets ctx admitted, currentEtag, present, Option.map_some, digest, alike alone]
    exact Except.ok.inj carried
  refine ⟨⟨row, present, alike⟩, fun waits => (by cases waits), ?_, linked.applied⟩
  intro trip pending
  cases pending
  refine ⟨⟨session.store.request envId key mutation drawn, Known.nothing,
    serve cfg (session.store.request envId key mutation drawn)⟩, List.getElem?_concat_length,
    ⟨mutation, drawn, edits, rfl⟩, targets, ?_, rfl, fun _ => ⟨fresh.2, cached⟩,
    fun journal made => (by cases made), unrefused,
    fun _ _ _ _ => ⟨fun _ known => (by cases known), fun _ known => (by cases known)⟩⟩
  intro index other elsewhere there
  rcases arrived there with old | ⟨last, _⟩
  · exact fresh.1 other (List.mem_of_getElem? old)
  · exact absurd last elsewhere

theorem Linked.receive (served : Served cfg pool) (linked : Linked cfg envId pool session)
    {key : String} {reply : Except RemoteStoreError (Response V)}
    (answered : session.reply pool = some (key, reply))
    (returned : (session.store.settle envId key reply).1.isOk = true) :
    Linked cfg envId pool { session with
      store := (session.store.settle envId key reply).2, pending := none } := by
  refine ⟨linked.present, fun _ => ?_, nofun, linked.applied⟩
  obtain ⟨trip, pending, rest⟩ := Option.bind_eq_some_iff.mp answered
  obtain ⟨task, found, rest⟩ := Option.bind_eq_some_iff.mp rest
  obtain ⟨own, underway⟩ := linked.underway trip pending
  cases underway.found.symm.trans found
  have member := List.mem_of_getElem? found
  cases program : task.program with
  | call other next =>
      rw [program] at rest
      cases rest
  | done ended =>
      rw [program] at rest
      cases rest
      obtain ⟨response, envelope, rfl, carries, after⟩ := settle_ok returned
      rw [after]
      show (session.store.rememberEtag envId (some envelope.etag)).cachedEtag.lookup envId = _
      rw [HttpEnvironmentStore.rememberEtag_some]
      obtain ⟨mutation, drawn, _, asked⟩ := underway.asked
      cases admission : task.tag.admission cfg with
      | none =>
          have fails := served.fails task member mutation (by rw [asked]; rfl) admission
          rw [program] at fails
          obtain ⟨e, failed⟩ := fails
          cases failed
      | some ctx =>
          have ends := served.sound.obeys task member
          rw [program] at ends
          rcases Ends.own ends admission with ⟨record, replayed, _⟩ | ⟨journal, committed, rfl⟩
          · cases underway.unreplayed.symm.trans replayed
          · have told := underway.committed journal committed
            have body : journal.responseBody = .envelope envelope := carries
            rw [body] at told
            exact congrArg some told

theorem Linked.observe (served : Served cfg pool) (linked : Linked cfg envId pool session)
    (action : ServerAction V) (spares : ∀ trip ∈ session.pending, Spares trip action)
    (heedful : session.alone = false → ∀ index now, action = .advance index now →
      ∀ trip ∈ session.pending, trip.index = index → ∀ task ∈ pool.tasks[index]?,
        task.program.First (HeldAt session.store envId task.known)) :
    Linked cfg envId ((server cfg).step pool action) (session.observe envId action pool.shared.db
      ((server cfg).step pool action).shared.db) := by
  cases action with
  | arrive request => exact linked.arrive request spares
  | restart event =>
      cases pending : session.pending with
      | none => exact linked.restart event pending
      | some trip => exact (spares trip pending).elim
  | advance index now =>
      by_cases mine : session.pending.map (·.index) = some index
      · obtain ⟨trip, pending, rfl⟩ := Option.map_eq_some_iff.mp mine
        exact linked.own_turn served pending fun crowded =>
          heedful crowded trip.index now rfl trip pending rfl
      · have observed : session.observe envId (.advance index now) pool.shared.db
            ((server cfg).step pool (.advance index now)).shared.db =
            { session with alone := false } := by
          simp only [Session.observe, if_neg mine]
        rw [observed]
        exact linked.others_turn served mine

end Steps

/-- While others act too: a call that would commit without writing the document has loaded
it at the etag the client has cached. -/
def Attentive (envId : EnvId) (state : ChainState V) : ChainAction V → Prop
  | .server (.advance index _) => ∀ session ∈ state.session, session.alone = false →
      ∀ trip ∈ session.pending, trip.index = index → ∀ task ∈ state.pool.tasks[index]?,
        task.program.First (HeldAt session.store envId task.known)
  | _ => True

instance (envId : EnvId) (state : ChainState V) : ∀ action, Decidable (Attentive envId state action)
  | .server (.advance index _) => inferInstanceAs
      (Decidable (∀ session ∈ state.session, session.alone = false → ∀ trip ∈ session.pending,
        trip.index = index → ∀ task ∈ state.pool.tasks[index]?,
          task.program.First (HeldAt session.store envId task.known)))
  | .server (.arrive _) | .server (.restart _) | .load _ | .send .. | .receive => .isTrue trivial

instance (cfg : Config V) (envId : EnvId) (state : ChainState V) (action : ChainAction V) :
    Decidable (((chain cfg envId).restrict (Attentive envId)).allowed state action) :=
  inferInstanceAs (Decidable (_ ∧ _))

structure InStep (cfg : Config V) (maxRows : Option UInt32) (envId : EnvId)
    (state : ChainState V) : Prop where
  reached : ∃ actions, state.pool = (serverRuns cfg).run (boot maxRows) actions
  linked : ∀ session ∈ state.session, Linked cfg envId state.pool session

section Runs

variable {cfg : Config V} {maxRows : Option UInt32} {envId : EnvId} {state : ChainState V}

theorem InStep.served (inStep : InStep cfg maxRows envId state) : Served cfg state.pool := by
  obtain ⟨actions, reached⟩ := inStep.reached
  rw [reached]
  exact served_run cfg maxRows actions

theorem InStep.further (inStep : InStep cfg maxRows envId state) (action : ServerAction V) :
    ∃ actions, (server cfg).step state.pool action =
      (serverRuns cfg).run (boot maxRows) actions := by
  obtain ⟨actions, reached⟩ := inStep.reached
  refine ⟨actions ++ [action], ?_⟩
  rw [(serverRuns cfg).run_append, reached]
  rfl

theorem inStep_step (action : ChainAction V)
    (allowed : ((chain cfg envId).restrict (Attentive envId)).allowed state action)
    (inStep : InStep cfg maxRows envId state) :
    InStep cfg maxRows envId (((chain cfg envId).restrict (Attentive envId)).step state action) := by
  obtain ⟨permitted, attentive⟩ := allowed
  cases action with
  | server action =>
      refine ⟨inStep.further action, ?_⟩
      intro later same
      obtain ⟨session, present, rfl⟩ := Option.map_eq_some_iff.mp same
      refine (inStep.linked session present).observe inStep.served action
        (permitted session present) ?_
      intro crowded index now turn trip pending position task found
      subst turn
      exact attentive session present crowded trip pending position task found
  | load store =>
      exact ⟨inStep.reached, fun session loaded => Linked.load inStep.served loaded⟩
  | send key mutation drawn =>
      obtain ⟨fresh, ready⟩ := permitted
      show InStep cfg maxRows envId (state.send cfg envId key mutation drawn)
      cases present : state.session with
      | none =>
          simp only [ChainState.send, present]
          exact inStep
      | some session =>
          obtain ⟨idle, calls⟩ := ready session present
          rw [ChainState.send_some mutation drawn present]
          refine ⟨inStep.further (.arrive (session.store.request envId key mutation drawn)), ?_⟩
          intro later same
          cases same
          exact (inStep.linked session present).send inStep.served fresh
            (Option.isNone_iff_eq_none.mp idle) calls
  | receive =>
      show InStep cfg maxRows envId (state.receive envId)
      cases present : state.session with
      | none =>
          simp only [ChainState.receive, present]
          exact inStep
      | some session =>
          obtain ⟨⟨key, reply⟩, answered, returned⟩ := permitted session present
          rw [ChainState.receive_some present answered]
          refine ⟨inStep.reached, ?_⟩
          intro later same
          cases same
          exact (inStep.linked session present).receive inStep.served answered returned

theorem inStep_run (cfg : Config V) (maxRows : Option UInt32) (envId : EnvId)
    (actions : List (ChainAction V))
    (admits : ((chain cfg envId).restrict (Attentive envId)).Admits (offline maxRows) actions) :
    InStep cfg maxRows envId ((chain cfg envId).run (offline maxRows) actions) := by
  rw [← (chain cfg envId).run_restrict (Attentive envId)]
  exact ((chain cfg envId).restrict (Attentive envId)).run_invariant _
    (fun state action allowed inStep => inStep_step action allowed inStep) _ actions admits
    ⟨⟨[], rfl⟩, nofun⟩

theorem Linked.passes {pool : ServerPool V} {session : Session V} {key : String} {e : RemoteStoreError}
    (linked : Linked cfg envId pool session) (alone : session.alone = true)
    (answered : session.reply pool = some (key, .error e)) : e.stale = false := by
  obtain ⟨trip, pending, rest⟩ := Option.bind_eq_some_iff.mp answered
  obtain ⟨task, found, rest⟩ := Option.bind_eq_some_iff.mp rest
  obtain ⟨own, underway⟩ := linked.underway trip pending
  cases underway.found.symm.trans found
  have unrefused := underway.alone alone
  cases program : task.program with
  | call other next =>
      rw [program] at rest
      cases rest
  | done ended =>
      rw [program] at rest unrefused
      cases rest
      exact unrefused e rfl

end Runs

/-- No two of these documents have one digest. -/
def Separates (cfg : Config V) (applied : List (V × V)) : Prop :=
  ∀ pair ∈ applied, cfg.json.sha256Of pair.1 = cfg.json.sha256Of pair.2 → pair.1 = pair.2

/-- The etag chain of an attentive client, whatever the interleaving: each of its accepted
mutations was applied to the document as loaded and changed by its own accepted mutations
alone; and as long as no one else acts, no call fails a precondition. -/
theorem etag_chain_pins (cfg : Config V) (maxRows : Option UInt32) (envId : EnvId)
    (actions : List (ChainAction V))
    (admits : ((chain cfg envId).restrict (Attentive envId)).Admits (offline maxRows) actions)
    (session : Session V)
    (ended : ((chain cfg envId).run (offline maxRows) actions).session = some session)
    (separates : Separates cfg session.applied) :
    (∀ pair ∈ session.applied, pair.1 = pair.2) ∧
      (session.alone = true → ∀ key e, session.reply
        ((chain cfg envId).run (offline maxRows) actions).pool = some (key, .error e) →
        e.stale = false) := by
  have inStep := inStep_run cfg maxRows envId actions admits
  have linked := inStep.linked session ended
  constructor
  · intro pair among
    have digests : etagOf cfg pair.1 = etagOf cfg pair.2 := linked.applied pair among
    exact separates pair among (congrArg StateEtag.value digests)
  · intro alone key e answered
    exact linked.passes alone answered

def demoStore : HttpEnvironmentStore := ⟨none, ∅⟩

def aside (actions : List (ServerAction PlainValue)) : List (ChainAction PlainValue) :=
  actions.map .server

def called (index : Nat) (key : String) (mutation : Mutation PlainValue) :
    List (ChainAction PlainValue) :=
  .send key mutation (demoRequest none key mutation).head :: aside (turns index 8) ++ [.receive]

def seeding : Mutation PlainValue := .seedTrustRoot (.ok ⟨"local"⟩)

abbrev demoChain : System (ChainState PlainValue) (ChainAction PlainValue) :=
  chain (demoConfig .openDev) ⟨"local"⟩

/-- Another client's call comes between the load and a rename, a seeded trust root and a
second rename. -/
def accompanied (other : Mutation PlainValue) : List (ChainAction PlainValue) :=
  aside (served 0 (demoRequest none "a" demoCreate)) ++ [.load demoStore] ++
    aside (served 1 (demoRequest none "b" other)) ++ called 2 "c" seeding ++
    called 3 "d" (demoRename "mine")

def decodedPair (pair : PlainValue × PlainValue) :
    Option Environment × Option Environment :=
  ((plainJson.environment.fromValue pair.1).toOption,
    (plainJson.environment.fromValue pair.2).toOption)

theorem decodedPair_same {pair : PlainValue × PlainValue}
    (decoded : (decodedPair pair).1.isSome = true)
    (same : (decodedPair pair).1 = (decodedPair pair).2) : pair.1 = pair.2 := by
  have plain {value : PlainValue} {env : Environment}
      (held : (plainJson.environment.fromValue value).toOption = some env) :
      value = .doc (.environment env) := by
    cases value with
    | snapshot snapshot => cases held
    | doc doc =>
        cases doc with
        | environment other =>
            cases held
            rfl
        | runtime _ | trustRoot _ | auditEvent _ => cases held
  obtain ⟨env, first⟩ := Option.isSome_iff_exists.mp decoded
  calc pair.1 = .doc (.environment env) := plain first
    _ = pair.2 := (plain (same.symm.trans first)).symm

/-- A client whose document nobody else changes. -/
theorem etag_chain_pins_accompanied :
    ∃ session, (demoChain.run (offline none) (accompanied lateRemoval)).session = some session ∧
      session.applied.length = 1 ∧ ∀ pair ∈ session.applied, pair.1 = pair.2 := by
  let final := (demoChain.run (offline none) (accompanied lateRemoval)).session
  have joined : final.isSome = true := by decide
  obtain ⟨session, ended⟩ := Option.isSome_iff_exists.mp joined
  have alike : ∀ session ∈ final, session.applied.length = 1 ∧ ∀ pair ∈ session.applied,
      (decodedPair pair).1.isSome = true ∧ (decodedPair pair).1 = (decodedPair pair).2 := by
    decide
  obtain ⟨one, decoded⟩ := alike session ended
  refine ⟨session, ended, one, ?_⟩
  exact (etag_chain_pins (demoConfig .openDev) none ⟨"local"⟩ (accompanied lateRemoval)
    (by decide) session ended fun pair among _ =>
      decodedPair_same (decoded pair among).1 (decoded pair among).2).1

/-- Without the condition a seeded trust root pins the chain anew, past another client's
rename. -/
theorem etag_chain_repinned :
    ¬ ∀ (cfg : Config PlainValue) (maxRows : Option UInt32) (envId : EnvId)
      (actions : List (ChainAction PlainValue)),
      (chain cfg envId).Admits (offline maxRows) actions → ∀ session,
      ((chain cfg envId).run (offline maxRows) actions).session = some session →
      Separates cfg session.applied →
      (∀ pair ∈ session.applied, pair.1 = pair.2) ∧
        (session.alone = true → ∀ key e, session.reply
          ((chain cfg envId).run (offline maxRows) actions).pool = some (key, .error e) →
          e.stale = false) := by
  intro claim
  let final := (demoChain.run (offline none) (accompanied (demoRename "renamed"))).session
  have joined : final.isSome = true := by decide
  obtain ⟨session, ended⟩ := Option.isSome_iff_exists.mp joined
  have apart : ∀ session ∈ final, session.applied ≠ [] ∧
      ∀ pair ∈ session.applied, pair.1.digest ≠ pair.2.digest := by
    decide
  obtain ⟨some_, differ⟩ := apart session ended
  have pinned := (claim (demoConfig .openDev) none ⟨"local"⟩ (accompanied (demoRename "renamed"))
    (by decide) session ended fun pair among same => absurd same (differ pair among)).1
  obtain ⟨pair, among⟩ := List.exists_mem_of_ne_nil _ some_
  exact differ pair among (congrArg PlainValue.digest (pinned pair among))

end GreenticDeployer.Remote
