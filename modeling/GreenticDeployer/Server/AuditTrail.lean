import GreenticDeployer.Server.Replies
import GreenticDeployer.Server.HandlerCalls
import GreenticDeployer.Store.AuditReplay

/-!
# The audit trail of a document

Every write of an environment's document is journaled in the same transaction, with
an event that tells from which generation to which. A server that prunes nothing
keeps one such row for each generation, in the order of the log.
-/

set_option maxHeartbeats 200000

namespace GreenticDeployer.Server

open Spec Engine Store Trust Lib

variable {V : Type} {cfg : Config V} {request : Request V} {ctx : Context} {k : Known V}
variable {db mid : Db V (ResponseBody V)} {call : Call V}

/-- A commit of a document comes with a journal of the step it makes. -/
def Accounts (cfg : Config V) (ctx : Context) : Call V → Prop
  | .createEnv _ journal => ∀ own ∈ journal, Records cfg ctx none 1 own
  | .importEnv _ _ journal => ∀ own ∈ journal, Records cfg ctx none 1 own
  | .updateEnv _ pin journal => ∀ own ∈ journal, Advances cfg ctx pin own
  | .updateEnvWithRevenuePolicy _ pin _ _ journal => ∀ own ∈ journal, Advances cfg ctx pin own
  | .restoreEnv _ _ pin journal => ∀ own ∈ journal, Advances cfg ctx pin own
  | _ => True

theorem accounts_allows (mutation : Mutation V) : mutation.Allows cfg (Accounts cfg) where
  shared := by
    intro ctx call made
    cases call with
    | createEnv env journal =>
        cases journal with
        | none => exact made.elim
        | some journal =>
            rintro _ ⟨⟩
            exact made
    | updateEnv env pin journal =>
        cases journal with
        | none => exact made.elim
        | some journal =>
            rintro _ ⟨⟩
            exact made
    | loadEnv envId => exact trivial
    | recordJournal journal => exact trivial
    | _ => exact made.elim
  reads := fun _ _ _ => trivial
  writes := fun _ _ _ _ _ _ => trivial
  prices := by
    rintro _ ctx env pin artifact root journal advances _ ⟨⟩
    exact advances
  captures := fun _ _ _ _ => trivial
  stores := fun _ _ _ _ _ _ => trivial
  deletes := fun _ _ _ _ _ _ _ => trivial
  imports := by
    rintro segment artifact _ ctx snapshot journal _ records _ ⟨⟩
    exact records
  loads := fun _ _ _ _ _ _ => trivial
  restores := by
    rintro segment id pin _ ctx envId snapshot pin journal advances _ ⟨⟩
    exact advances

theorem serve_accounts (admitted : request.admission cfg = some ctx) :
    (serve cfg request).Obeys (fun _ call => Accounts cfg ctx call) learn (fun _ _ => True)
      Known.nothing := by
  refine serve_entered admitted (fun _ _ => trivial) fun mutation handler body _ built entered => ?_
  have guards := handler_guards (accounts_allows mutation) built _ body entered ctx
  exact (guards.only fun _ _ => trivial).obeys (fun _ _ made => made) (fun _ _ => trivial) _

def accounted (cfg : Config V) (request : Request V) (k : Known V) (call : Call V) : Prop :=
  permits cfg request k call ∧ ∀ ctx, request.admission cfg = some ctx → Accounts cfg ctx call

theorem serve_accounted (cfg : Config V) (request : Request V) :
    (serve cfg request).Obeys (accounted cfg request) learn (Ends cfg request) Known.nothing := by
  cases admission : request.admission cfg with
  | some ctx =>
      refine (((serve_obeys cfg request).and (serve_accounts admission)).imp ?_).mono
        fun _ _ ends => ends.1
      rintro known call ⟨permitted, accounts⟩
      refine ⟨permitted, fun other own => ?_⟩
      cases admission.symm.trans own
      exact accounts
  | none =>
      refine (serve_obeys cfg request).imp fun known call permitted => ⟨permitted, ?_⟩
      intro ctx own
      cases admission.symm.trans own

/-- The generation a step leaves, where there is one. -/
def leaving : Nat → Option Nat
  | 0 => none
  | generation + 1 => some (generation + 1)

/-- An audit row of an admitted request, whose event tells of the step that leaves a
generation of its environment. -/
structure TellsOf (cfg : Config V) (request : Request V) (ctx : Context) (generation : Nat)
    (row : AuditRow V) : Prop where
  admitted : request.admission cfg = some ctx
  envId : row.envId = ctx.envId
  recorded : ∃ attempt result, row.eventId = ctx.head.eventId attempt ∧
    row.event = cfg.json.auditEvent
      (auditEventFor ctx attempt (leaving generation) (some (generation + 1)) result)

/-- The steps of an environment's document in the order of the log, each told by a row of
one of the requests. -/
structure Trail (cfg : Config V) (requests : List (Request V)) (log : AuditLog V) (envId : EnvId)
    (trail : List (AuditRow V)) : Prop where
  logged : trail ⊆ log.rows
  ordered : (trail.map (·.id)).Pairwise (· < ·)
  told : ∀ generation row, trail[generation]? = some row → row.envId = envId ∧
    ∃ request ∈ requests, ∃ ctx, TellsOf cfg request ctx generation row

/-- Every document has a trail of as many rows as its generation counts. -/
def Trailed (cfg : Config V) (requests : List (Request V)) (db : Db V (ResponseBody V)) : Prop :=
  ∀ envId row, db.environments.lookup envId = some row → 0 < row.generation ∧
    ∃ trail, trail.length = row.generation ∧ Trail cfg requests db.auditLog envId trail

variable {requests : List (Request V)} {log after : AuditLog V} {envId : EnvId}
variable {trail : List (AuditRow V)} {journal : Journal V}

theorem Trail.grow (held : Trail cfg requests log envId trail) (kept : log.rows ⊆ after.rows) :
    Trail cfg requests after envId trail where
  logged := List.Subset.trans held.logged kept
  ordered := held.ordered
  told := held.told

theorem Trail.nil : Trail cfg requests log envId [] := ⟨by nofun, .nil, by nofun⟩

theorem Trail.append (held : Trail cfg requests log ctx.envId trail)
    (present : request ∈ requests) (admitted : request.admission cfg = some ctx)
    (named : journal.envId = ctx.envId) {now : Timestamp}
    (records : Records cfg ctx (leaving trail.length) (trail.length + 1) journal)
    (appended : appendAudit log journal.envId journal.auditEventId now journal.auditEvent =
      .ok after) :
    ∃ longer, longer.length = trail.length + 1 ∧
      Trail cfg requests after ctx.envId longer := by
  have rows := appendAudit_rows appended
  obtain ⟨attempt, result, minted, recorded⟩ := records
  refine ⟨trail ++ [⟨⟨log.sequence + 1, journal.auditEventId, now, journal.auditEvent⟩,
    journal.envId⟩], List.length_append, ?_, ?_, ?_⟩
  · rw [rows]
    exact List.append_subset.mpr ⟨List.Subset.trans held.logged (List.subset_append_left _ _),
      List.subset_append_right _ _⟩
  · rw [List.map_append, List.pairwise_append]
    refine ⟨held.ordered, List.pairwise_singleton _ _, ?_⟩
    intro id member fresh new
    obtain ⟨row, inside, rfl⟩ := List.mem_map.mp member
    have covered := log.covered row (held.logged inside)
    simp only [List.map_cons, List.map_nil, List.mem_singleton] at new
    omega
  · intro generation row found
    rcases lt_or_ge generation trail.length with old | new
    · exact held.told generation row (List.getElem?_append_left old ▸ found)
    · rw [List.getElem?_append_right new] at found
      obtain ⟨bound, same⟩ := List.getElem?_eq_some_iff.mp found
      have last : generation = trail.length := by
        simp only [List.length_singleton] at bound
        omega
      subst last
      simp only [Nat.sub_self, List.getElem_cons_zero] at same
      subst same
      exact ⟨named, request, present, ctx, admitted, named, attempt, result, minted, recorded⟩

theorem drafts_auditKept (drafts : Drafts cfg request ctx k db call mid) :
    db.auditLog.rows ⊆ mid.auditLog.rows := by
  cases drafts with
  | @restore snapshot =>
      exact replayAuditInTx_rows (auditState db) ctx.envId snapshot.auditLog
        snapshot.auditRetention
  | importEnv asked decoded named encoded absent history valid => exact importAudit_rows history
  | _ => exact List.Subset.refl _

/-- A document founded, or replaced by its successor, in the step a journal tells of. -/
def Moves (cfg : Config V) (ctx : Context) (journal : Journal V) (old new : Option (DocRow V)) :
    Prop :=
  ∃ generation row, new = some row ∧ row.generation = generation + 1 ∧
    Records cfg ctx (leaving generation) (generation + 1) journal ∧
    ((old = none ∧ generation = 0) ∨
      ∃ before, old = some before ∧ before.generation = generation)

section Commits

variable {data : V} {rows : Table EnvId (DocRow V)}

theorem moves_founded (records : Records cfg ctx none 1 journal)
    (absent : db.environments.lookup ctx.envId = none)
    (envId : EnvId) (written : rows = db.environments.insert ctx.envId (docRow cfg.json data 1)) :
    rows.lookup envId = db.environments.lookup envId ∨
      envId = ctx.envId ∧
        Moves cfg ctx journal (db.environments.lookup envId) (rows.lookup envId) := by
  subst written
  rcases Table.lookup_insert_cases db.environments ctx.envId envId (docRow cfg.json data 1) with
    other | ⟨rfl, own⟩
  · exact .inl other
  · exact .inr ⟨rfl, 0, _, own, rfl, records, .inl ⟨absent, rfl⟩⟩

theorem moves_replaced {pin : Precondition} {row : DocRow V} {loaded : Nat}
    (advances : Advances cfg ctx pin journal) (pinned : pin.expectedGeneration = some loaded)
    (current : db.environments.lookup ctx.envId = some row) (fresh : row.generation = loaded)
    (counted : 0 < row.generation) (envId : EnvId)
    (written : rows =
      db.environments.insert ctx.envId (docRow cfg.json data (row.generation + 1))) :
    rows.lookup envId = db.environments.lookup envId ∨
      envId = ctx.envId ∧
        Moves cfg ctx journal (db.environments.lookup envId) (rows.lookup envId) := by
  subst written
  rcases Table.lookup_insert_cases db.environments ctx.envId envId
    (docRow cfg.json data (row.generation + 1)) with other | ⟨rfl, own⟩
  · exact .inl other
  · obtain ⟨generation, same, records⟩ := advances
    cases same.symm.trans pinned
    have left : leaving loaded = some loaded := by
      cases loaded with
      | zero => omega
      | succ generation => rfl
    exact .inr ⟨rfl, loaded, _, own, congrArg (· + 1) fresh, left ▸ records,
      .inr ⟨row, current, fresh⟩⟩

/-- A draft leaves the documents of other environments alone, and moves that of its own
by the step its journal tells of. -/
theorem drafts_moves {reply : call.Reply} (admitted : request.admission cfg = some ctx)
    (free : k.committed = none) (permitted : Permits cfg request ctx k call)
    (accounts : Accounts cfg ctx call) (remembers : Remembers cfg request k db)
    (counted : ∀ row, db.environments.lookup ctx.envId = some row → 0 < row.generation)
    (drafts : Drafts cfg request ctx k db call mid)
    (committed : (learn k call reply).committed = some journal) (envId : EnvId) :
    mid.environments.lookup envId = db.environments.lookup envId ∨
      envId = ctx.envId ∧ Moves cfg ctx journal (db.environments.lookup envId)
        (mid.environments.lookup envId) := by
  obtain ⟨result, rfl⟩ := committed_reply free committed
  cases permitted with
  | create named founds journaled =>
      cases committed
      cases drafts with
      | create _ _ encoded absent valid =>
          rw [named] at absent ⊢
          exact moves_founded (accounts _ rfl) absent envId rfl
  | update known pinned transforms journaled =>
      cases committed
      cases drafts with
      | update held _ encoded current fresh valid =>
          cases known.symm.trans held
          have own := transforms.environmentId.trans (remembers.loaded ctx _ admitted known).named
          rw [own] at current ⊢
          exact moves_replaced (accounts _ rfl) pinned current fresh (counted _ current) envId rfl
  | policy known pinned transforms priced journaled =>
      cases committed
      cases drafts with
      | policy held _ _ encoded current fresh valid =>
          cases known.symm.trans held
          have own := transforms.environmentId.trans (remembers.loaded ctx _ admitted known).named
          rw [own] at current ⊢
          exact moves_replaced (accounts _ rfl) pinned current fresh (counted _ current) envId rfl
  | restore asked known pinned held decoded journaled =>
      cases committed
      cases drafts with
      | restore _ seen stored unpacked opened encoded current fresh valid =>
          cases known.symm.trans seen
          have own := (remembers.snapshots.backup ctx _ admitted stored _ unpacked).1 _ opened
          rw [own] at current ⊢
          exact moves_replaced (accounts _ rfl) pinned current fresh (counted _ current) envId rfl
  | importEnv asked journaled =>
      cases committed
      cases drafts with
      | importEnv _ opened named encoded absent history valid =>
          exact moves_founded (accounts _ rfl) absent envId rfl
  | _ => cases drafts <;> exact .inl rfl

end Commits

theorem appendAndPrune_uncapped {state audited : AuditState V} {eventId : String} {event : V}
    {now : Timestamp}
    (returned : appendAndPrune state envId eventId event none now = .ok audited) :
    appendAudit state.log envId eventId now event = .ok audited.log := by
  unfold appendAndPrune at returned
  split at returned
  · cases returned
  · rename_i log appended
    cases returned
    exact appended

theorem Trailed.grow {before later : Db V (ResponseBody V)} (held : Trailed cfg requests before)
    (same : later.environments = before.environments)
    (kept : before.auditLog.rows ⊆ later.auditLog.rows) : Trailed cfg requests later := by
  intro envId row present
  rw [same] at present
  obtain ⟨counted, trail, long, trailing⟩ := held envId row present
  exact ⟨counted, trail, long, trailing.grow kept⟩

theorem Effect.trailed {now : Timestamp} {state : ServerState V} {reply : call.Reply}
    {later : Db V (ResponseBody V)} (effect : Effect cfg request k now state call reply later)
    (present : request ∈ requests) (uncapped : state.auditCap = none)
    (permitted : accounted cfg request k call) (remembers : Remembers cfg request k state.db)
    (held : Trailed cfg requests state.db) : Trailed cfg requests later := by
  obtain ⟨permitted, accounts⟩ := permitted
  cases effect with
  | quiet same kept =>
      rw [same]
      exact held
  | denial refused appended same kept =>
      subst same
      rw [uncapped] at appended
      refine held.grow rfl ?_
      rw [withAudit_auditLog, appendAudit_rows (appendAndPrune_uncapped appended)]
      exact List.subset_append_left _ _
  | @commit ctx mid journal admitted drafts journaled wrote learned =>
      have tables := journalInTx_sameTables wrote
      obtain ⟨ledger, audit, _, appended, written⟩ := journalInTx_ok wrote
      rw [uncapped] at appended
      have pushed := appendAndPrune_uncapped appended
      have log : later.auditLog = audit.log := by rw [written]; rfl
      have kept : state.db.auditLog.rows ⊆ later.auditLog.rows := by
        rw [log, appendAudit_rows pushed]
        exact List.Subset.trans (drafts_auditKept drafts) (List.subset_append_left _ _)
      have moves := drafts_moves admitted permitted.2.1
        (permits_of_admission permitted admitted) (accounts ctx admitted) remembers
        (fun row found => (held ctx.envId row found).1) drafts learned
      intro envId row found
      rw [tables.environments] at found
      rcases moves envId with same | ⟨rfl, generation, new, stored, next, records, stepped⟩
      · obtain ⟨counted, trail, long, trailing⟩ := held envId row (same ▸ found)
        exact ⟨counted, trail, long, trailing.grow kept⟩
      · cases stored.symm.trans found
        -- the trail so far, in the log the journal is appended to
        have sofar : ∃ trail, trail.length = generation ∧
            Trail cfg requests mid.auditLog ctx.envId trail := by
          rcases stepped with ⟨_, rfl⟩ | ⟨before, current, rfl⟩
          · exact ⟨[], rfl, .nil⟩
          · obtain ⟨_, trail, long, trailing⟩ := held ctx.envId before current
            exact ⟨trail, long, trailing.grow (drafts_auditKept drafts)⟩
        obtain ⟨trail, rfl, trailing⟩ := sofar
        obtain ⟨longer, long, continued⟩ :=
          trailing.append present admitted journaled.envId records pushed
        exact ⟨next ▸ Nat.succ_pos _, longer, long.trans next.symm, log ▸ continued⟩

def Unpruned : ServerPool V → ServerAction V → Prop
  | _, .restart event => event.1 = none
  | _, _ => True

theorem trail_rules (cfg : Config V) : (server cfg).Rules Unpruned (accounted cfg) (Ends cfg)
    (fun state => Keyed cfg state.db) (fun request k state => Remembers cfg request k state.db) where
  body := serve_accounted cfg
  start := (updates_rules cfg).start
  reset := fun pool event _ keyed => (updates_rules cfg).reset pool event trivial keyed
  inv := by
    intro pool index now task call next _ found program sound
    obtain ⟨permitted, remembers⟩ := sound.acting found program
    exact (effect_of_permitted _ _ permitted.1).keyed sound.inv remembers
  learned := by
    intro pool index now task call next _ found program sound
    obtain ⟨permitted, remembers⟩ := sound.acting found program
    exact (remembers.learn sound.inv permitted.1 (learns cfg _ _ _ _)).step
      (effect_of_permitted _ _ permitted.1).environments
  stable := by
    intro pool index now task call next _ found program sound other _ _ remembers
    obtain ⟨permitted, _⟩ := sound.acting found program
    exact remembers.step (effect_of_permitted _ _ permitted.1).environments

/-- What a server that prunes nothing keeps. -/
def Complete (cfg : Config V) (requests : List (Request V)) (state : ServerState V) : Prop :=
  state.auditCap = none ∧ Trailed cfg requests state.db

theorem reset_complete (requests : List (Request V)) (pool : ServerPool V)
    (event : Option UInt32 × Timestamp) (unpruned : Unpruned pool (.restart event))
    (held : Complete cfg requests pool.shared) :
    Complete cfg requests ((server cfg).reset pool.shared event) := by
  obtain ⟨cap, now⟩ := event
  cases unpruned
  exact ⟨rfl, held.2⟩

theorem exec_complete (requests : List (Request V)) (pool : ServerPool V) (index : Nat)
    (now : Timestamp) (task : ServerTask V) (call : Call V) (next : call.Reply → Serving V)
    (_ : Unpruned pool (.advance index now)) (found : pool.tasks[index]? = some task)
    (program : task.program = .call call next)
    (sound : (server cfg).Sound (accounted cfg) (Ends cfg) (fun state => Keyed cfg state.db)
      (fun request k state => Remembers cfg request k state.db) pool)
    (present : task.tag ∈ requests) (held : Complete cfg requests pool.shared) :
    Complete cfg requests ((server cfg).exec now pool.shared call).2 := by
  obtain ⟨permitted, remembers⟩ := sound.acting found program
  refine ⟨held.1, ?_⟩
  exact (effect_of_permitted now pool.shared permitted.1).trailed present held.1 permitted
    remembers held.2

theorem unpruned_admits {pool : ServerPool V} (actions : List (ServerAction V))
    (unpruned : ∀ event, .restart event ∈ actions → event.1 = none) :
    ((server cfg).system Unpruned).Admits pool actions := by
  induction actions generalizing pool with
  | nil => trivial
  | cons action rest ih =>
      refine ⟨?_, ih fun event member => unpruned event (List.mem_cons_of_mem _ member)⟩
      cases action with
      | restart event => exact unpruned event List.mem_cons_self
      | arrive request => trivial
      | advance index now => trivial

/-- The audit log accounts for every generation. In every run without an audit cap, however
the requests interleave, an environment at generation n has n rows in the log, in the order
of the log, the first for its founding or import and each other for the step from one
generation to the next, each written by a request that was admitted to the environment. -/
theorem every_generation_is_audited (cfg : Config V) (actions : List (ServerAction V))
    (unpruned : ∀ event, .restart event ∈ actions → event.1 = none) (envId : EnvId)
    (row : DocRow V)
    (stored : ((serverRuns cfg).run (boot none) actions).shared.db.environments.lookup envId =
      some row) :
    ∃ trail : List (AuditRow V), trail.length = row.generation ∧
      Trail cfg (arrivals actions)
        ((serverRuns cfg).run (boot none) actions).shared.db.auditLog envId trail := by
  have arrived : ∀ request, .arrive request ∈ actions → request ∈ arrivals actions :=
    fun request member => List.mem_filterMap.mpr ⟨_, member, rfl⟩
  have booted : Complete cfg (arrivals actions) (boot none : ServerPool V).shared :=
    ⟨rfl, fun _ _ present => by cases present⟩
  have complete : Complete cfg (arrivals actions)
      (((server cfg).system Unpruned).run (boot none) actions).shared := by
    refine (server cfg).stretch_run (· ∈ arrivals actions)
      (fun state later => Complete cfg (arrivals actions) state →
        Complete cfg (arrivals actions) later)
      (trail_rules cfg) (fun _ held => held)
      (fun _ _ _ first second held => second (first held)) ?_ ?_
      (unpruned_admits actions unpruned) ((server cfg).sound_empty .empty)
      (fun _ member => absurd member List.not_mem_nil) arrived booted
    · exact fun pool event => reset_complete _ pool event
    · exact fun pool index now task call next may found program sound present =>
        exec_complete _ pool index now task call next may found program sound present
  have same := (server cfg).run_permitted Unpruned (fun _ _ => True) (boot none) actions
  rw [same] at complete
  exact (complete.2 envId row stored).2

/-- A document is founded, backed up, renamed and, after a restart, restored. -/
def restoredOnce : List (ServerAction PlainValue) :=
  served 0 (demoRequest none "a" demoCreate) ++
    served 1 (demoRequest none "b" (.createBackup (.ok ⟨"local"⟩))) ++
    served 2 (demoRequest none "c" (demoRename "renamed")) ++
    [.restart (none, "2026-01-02 00:00:00")] ++
    served 0 (demoRequest none "d" (.restoreEnvironment (.ok ⟨"local"⟩) "b" ⟨none, some 2⟩))

def restoredPool : ServerPool PlainValue :=
  (serverRuns (demoConfig .openDev)).run (boot none) restoredOnce

/-- The backup's own row tells of no step. -/
theorem every_generation_is_audited_restored :
    restoredPool.shared.db.auditLog.rows.length = 4 ∧
    ∃ trail : List (AuditRow PlainValue), trail.length = 3 ∧
      Trail (demoConfig .openDev) (arrivals restoredOnce) restoredPool.shared.db.auditLog
        ⟨"local"⟩ trail := by
  have unpruned : ∀ event, .restart event ∈ restoredOnce → event.1 = none := by
    simp [restoredOnce, served, turns]
  have present : ∃ row, restoredPool.shared.db.environments.lookup ⟨"local"⟩ = some row ∧
      row.generation = 3 := ⟨_, rfl, rfl⟩
  obtain ⟨row, stored, three⟩ := present
  refine ⟨by decide, three ▸ ?_⟩
  exact every_generation_is_audited (demoConfig .openDev) restoredOnce unpruned ⟨"local"⟩ row stored

end GreenticDeployer.Server
