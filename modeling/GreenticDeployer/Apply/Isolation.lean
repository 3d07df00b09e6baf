import GreenticDeployer.Apply.Prune

/-!
# What a prune may retire

A prune reads the environment, then the ledger, and acts on what it read. While
no other manifest records a claim on what is about to go, every deployment a
prune retires is its own manifest's and nobody else's.
-/

set_option maxHeartbeats 200000

namespace GreenticDeployer.Apply

open Spec Lib Engine

variable {serde : SerdeJson} {ext : Externals}

/-- The last successful apply of a manifest. -/
def latestApply (history : List Applied) (key : String) : Option Applied :=
  (history.filter fun applied => applied.key = key).getLast?

/-- A deployment the apply may retire: its manifest declared it in a successful
apply, it is deployed as it was then, the manifest no longer lists it, and no other
manifest's last successful apply declared it. -/
structure Prunable (state : ApplyState) (run : ApplyRun) (id : DeploymentId) : Prop where
  declared : ∃ applied ∈ state.history, applied.key = run.owner.key ∧
    ∃ owned ∈ applied.declared, owned.deploymentId = id ∧ owned ∈ census state.env
  dropped : ∀ owned ∈ census state.env, owned.deploymentId = id →
    ⟨owned.bundleId, owned.customerId⟩ ∉ run.bundles
  unclaimed : ∀ key applied, key ≠ run.owner.key → latestApply state.history key = some applied →
    ∀ owned ∈ applied.declared, owned.deploymentId ≠ id

/-- Every retire about to be made, of a deployment that is there, is of one its
apply may retire. -/
def PrunesIsolated (pool : ApplyPool) : Prop :=
  ∀ task ∈ pool.tasks, ∀ run, task.tag = .apply run →
    ∀ id step next, task.program = .call (.retire id step) next →
      id ∈ deploymentIds pool.shared.env → Prunable pool.shared run id

/-- The environment a record is made from still has every deployment the ledger
lists and the store has. -/
def upToDate (state : ApplyState) (env : Environment) : Bool :=
  (state.ledger.getD .default).owners.entries.all fun entry =>
    entry.2.deployments.all fun owned =>
      owned.deploymentId ∉ deploymentIds state.env ∨ owned.deploymentId ∈ deploymentIds env

/-- No other manifest's prune in flight is set on what is declared. -/
def clearOfPrunes (pool : ApplyPool) (owner : Owner) (declared : List DeploymentId) : Bool :=
  pool.tasks.all fun other =>
    match other.tag with
    | .apply run => run.owner.key = owner.key ∨ ¬ other.InFlight ∨
      ∀ id ∈ declared, id ∉ other.tag.planned other.known
    | .operate _ => true

def freshCall (pool : ApplyPool) : ApplyCall → Bool
  | .engine verb =>
    (deploys verb).all fun owned =>
      owned.deploymentId ∉ pool.shared.minted.map (·.deploymentId)
  | _ => true

/-- An apply that does not prune writes its ledger; a record is made from an
environment that is up to date and claims nothing another manifest is about to
retire. -/
def apartCall (pool : ApplyPool) (turn : Turn) : ApplyCall → Bool
  | .record env owner declared prune =>
    (turn ≠ .breaks || prune) && upToDate pool.shared env && clearOfPrunes pool owner declared
  | _ => true

def nextCall (pool : ApplyPool) (index : Nat) : Option ApplyCall :=
  pool.tasks[index]?.bind fun task =>
    match task.program with
    | .done _ => none
    | .call c _ => some c

def freshIds (pool : ApplyPool) : PoolAction Job Turn Unit → Bool
  | .advance index _ => (nextCall pool index).all (freshCall pool)
  | _ => true

def keepsApart (pool : ApplyPool) : PoolAction Job Turn Unit → Bool
  | .advance index turn => (nextCall pool index).all (apartCall pool turn)
  | _ => true

def permits (pool : ApplyPool) (action : PoolAction Job Turn Unit) : Bool :=
  freshIds pool action && keepsApart pool action

theorem nextCall_eq {pool : ApplyPool} {index : Nat} {c : ApplyCall} :
    nextCall pool index = some c ↔
      ∃ task next, pool.tasks[index]? = some task ∧ task.program = .call c next := by
  simp only [nextCall, Option.bind_eq_some_iff]
  constructor
  · rintro ⟨task, found, called⟩
    cases program : task.program with
    | done result =>
        rw [program] at called
        cases called
    | call other next =>
        rw [program] at called
        cases called
        exact ⟨task, next, found, program⟩
  · rintro ⟨task, next, found, program⟩
    exact ⟨task, found, by rw [program]⟩

theorem permits_call {pool : ApplyPool} {index : Nat} {turn : Turn}
    {task : Task Job ApplyCall ApplyReply Standing (Except Refusal Unit)} {c : ApplyCall}
    {next : ApplyReply c → Program ApplyCall ApplyReply (Except Refusal Unit)}
    (may : permits pool (.advance index turn) = true) (found : pool.tasks[index]? = some task)
    (program : task.program = .call c next) :
    freshCall pool c = true ∧ apartCall pool turn c = true := by
  have called := nextCall_eq.mpr ⟨task, next, found, program⟩
  simp only [permits, freshIds, keepsApart, called, Option.all_some, Bool.and_eq_true] at may
  exact may

def allowedCall (job : Job) (known : Standing) : ApplyCall → Prop
  | .record env owner declared _ => known.latest = some env ∧
      ∃ run, job = .apply run ∧ owner = run.owner ∧ declared = declaredIds env run.bundles
  | .retire id _ => id ∈ job.planned known
  | _ => True

def harmless : ApplyCall → Bool
  | .record .. => false
  | .retire .. => false
  | _ => true

theorem allowed_of_harmless (job : Job) (known : Standing) (c : ApplyCall)
    (fine : harmless c = true) : allowedCall job known c := by
  cases c with
  | record env owner declared prune => cases fine
  | retire id step => cases fine
  | _ => exact trivial

theorem load_obeys (job : Job) (known : Standing) :
    load.run.Obeys (allowedCall job) Standing.learn
      (fun after outcome => after.recorded = known.recorded ∧ after.view = known.view ∧
        ∀ env, outcome = .ok env → after.latest = some env) known := by
  refine Program.Obeys.ask trivial ?_
  intro reply
  cases reply with
  | error e => exact ⟨rfl, rfl, fun _ wrong => by cases wrong⟩
  | ok env => exact ⟨rfl, rfl, fun _ same => by cases same; rfl⟩

theorem record_obeys {run : ApplyRun} {known : Standing} {env : Environment}
    (latest : known.latest = some env) :
    (record run env).run.Obeys (allowedCall (.apply run)) Standing.learn
      (fun after outcome => outcome = .ok () → after.recorded = true) known := by
  refine Program.Obeys.ask ⟨latest, run, rfl, rfl, rfl⟩ ?_
  intro reply
  cases reply with
  | error e => exact fun wrong => by cases wrong
  | ok done => exact fun _ => rfl

section Retire

variable {job : Job} {view : Option (Environment × OwnershipLedger)} {known : Standing}

theorem load_obeys_view (seen : known.view = view) :
    load.run.Obeys (allowedCall job) Standing.learn (fun after _ => after.view = view) known :=
  (load_obeys job known).mono fun _ _ held => held.2.1.trans seen

theorem hook_obeys (seen : known.view = view) :
    hook.run.Obeys (allowedCall job) Standing.learn (fun after _ => after.view = view) known :=
  Program.Obeys.ask trivial fun _ => seen

variable {id : DeploymentId}

theorem retireStep_obeys (planned : ∀ known, known.view = view → id ∈ job.planned known)
    (step : RetireStep) (seen : known.view = view) :
    (retireStep id step).run.Obeys (allowedCall job) Standing.learn
      (fun after _ => after.view = view) known :=
  Program.Obeys.ask (planned known seen) fun _ => seen

theorem teardown_obeys (planned : ∀ known, known.view = view → id ∈ job.planned known)
    (archive : List RevisionId) (revisionId : RevisionId) (seen : known.view = view) :
    (teardown id archive revisionId).run.Obeys (allowedCall job) Standing.learn
      (fun after _ => after.view = view) known := by
  refine Program.Obeys.andThen (hook_obeys seen) (fun _ _ held => held) ?_
  intro known _ seen
  split
  · exact retireStep_obeys planned _ seen
  · exact seen

theorem retireDeployment_obeys (planned : ∀ known, known.view = view → id ∈ job.planned known)
    (seen : known.view = view) :
    (retireDeployment id).run.Obeys (allowedCall job) Standing.learn
      (fun after _ => after.view = view) known := by
  refine Program.Obeys.andThen (load_obeys_view seen) (fun _ _ held => held) ?_
  intro known _ seen
  refine Program.Obeys.andThen (hook_obeys seen) (fun _ _ held => held) ?_
  intro known _ seen
  refine Program.Obeys.andThen (retireStep_obeys planned .begin seen) (fun _ _ held => held) ?_
  intro known _ seen
  refine Program.Obeys.andThen (load_obeys_view seen) (fun _ _ held => held) ?_
  intro known env seen
  have planning : (Program.lift ((retireSteps env id).mapError Refusal.removal) :
      ApplyProgram RetireSteps).run.Obeys (allowedCall job) Standing.learn
        (fun after _ => after.view = view) known := seen
  refine Program.Obeys.andThen planning (fun _ _ held => held) ?_
  intro known steps seen
  refine Program.Obeys.andThen (Program.Obeys.forM (fun known => known.view = view) _ seen
    fun revisionId _ known seen => retireStep_obeys planned _ seen) (fun _ _ held => held) ?_
  intro known _ seen
  refine Program.Obeys.andThen (Program.Obeys.forM (fun known => known.view = view) _ seen
    fun _ _ known seen => hook_obeys seen) (fun _ _ held => held) ?_
  intro known _ seen
  refine Program.Obeys.andThen (Program.Obeys.forM (fun known => known.view = view) _ seen
    fun revisionId _ known seen => teardown_obeys planned _ revisionId seen)
    (fun _ _ held => held) ?_
  intro known _ seen
  exact retireStep_obeys planned .remove seen

theorem checkPlan_obeys (env : Environment) (plan : List DeploymentId)
    (seen : known.view = view) :
    (checkPlan env plan).run.Obeys (allowedCall job) Standing.learn
      (fun after _ => after.view = view) known := by
  unfold checkPlan
  split
  · exact seen
  · exact Program.Obeys.andThen (hook_obeys seen) (fun _ _ held => held) fun _ _ seen => seen

end Retire

theorem planFor_obeys {run : ApplyRun} {known : Standing} {env : Environment}
    (latest : known.latest = some env) (recorded : known.recorded = true) :
    (planFor run env).run.Obeys (allowedCall (.apply run)) Standing.learn
      (fun after outcome => ∀ plan, outcome = .ok plan → ∃ ledger,
        after.view = some (env, ledger) ∧ plan = planOf run env ledger) known := by
  have reading : (Program.ask .loadLedger fun reply => reply :
      ApplyProgram OwnershipLedger).run.Obeys (allowedCall (.apply run)) Standing.learn
        (fun after outcome => ∀ ledger, outcome = .ok ledger →
          after.view = some (env, ledger)) known := by
    refine Program.Obeys.ask trivial ?_
    intro reply
    cases reply with
    | error e => exact fun _ wrong => by cases wrong
    | ok ledger =>
        intro other same
        cases same
        simp only [Standing.learn, recorded, if_true, latest, Option.map_some]
  refine Program.Obeys.andThen reading (fun _ _ _ _ wrong => by cases wrong) ?_
  intro known ledger seen plan same
  cases same
  exact ⟨ledger, seen ledger rfl, rfl⟩

theorem executePrune_obeys {run : ApplyRun} {known : Standing} (recorded : known.recorded = true) :
    (executePrune run).run.Obeys (allowedCall (.apply run)) Standing.learn (fun _ _ => True)
      known := by
  refine Program.Obeys.andThen (load_obeys _ known) (fun _ _ _ => trivial) ?_
  rintro known env ⟨still, -, latest⟩
  refine Program.Obeys.andThen (planFor_obeys (latest env rfl) (still.trans recorded))
    (fun _ _ _ => trivial) ?_
  intro known plan planned
  obtain ⟨ledger, seen, rfl⟩ := planned plan rfl
  refine Program.Obeys.andThen (checkPlan_obeys env _ seen) (fun _ _ _ => trivial) ?_
  intro known _ seen
  refine Program.Obeys.andThen (Program.Obeys.forM (fun known => known.view = some (env, ledger)) _
    seen ?_) (fun _ _ _ => trivial) ?_
  · intro id member known seen
    refine retireDeployment_obeys ?_ seen
    intro known seen
    simp only [Job.planned, seen]
    exact member
  · intro known _ _
    refine Program.Obeys.andThen (load_obeys _ known) (fun _ _ _ => trivial) ?_
    rintro known after ⟨-, -, latest⟩
    exact (record_obeys (latest after rfl)).mono fun _ _ _ => trivial

/-- The half before the record reads and executes; it needs no leave. -/
theorem preview_only (run : ApplyRun) (env : Environment) :
    (preview run env).run.Only fun c => harmless c = true := by
  refine Program.Only.andThen ⟨rfl, fun reply => ?_⟩ ?_
  · cases reply with
    | error e => exact trivial
    | ok ledger => exact trivial
  · intro plan
    unfold checkPlan
    split
    · exact trivial
    · exact Program.Only.andThen ⟨rfl, fun _ => trivial⟩ fun _ => trivial

theorem verify_only (run : ApplyRun) : (verify run).run.Only fun c => harmless c = true := by
  refine Program.Only.andThen ⟨rfl, fun _ => trivial⟩ ?_
  intro env
  split <;> exact trivial

theorem applyManifest_obeys (run : ApplyRun) (known : Standing) :
    (applyManifest run).run.Obeys (allowedCall (.apply run)) Standing.learn (fun _ _ => True)
      known := by
  have free : ∀ {α : Type} (program : ApplyProgram α) (known : Standing),
      program.run.Only (fun c => harmless c = true) →
      program.run.Obeys (allowedCall (.apply run)) Standing.learn (fun _ _ => True) known :=
    fun program known only =>
      only.obeys (allowed_of_harmless (.apply run)) (fun _ _ => trivial) known
  refine Program.Obeys.andThen (load_obeys _ known) (fun _ _ _ => trivial) ?_
  intro known env _
  refine Program.Obeys.andThen (free _ known ?_) (fun _ _ _ => trivial) ?_
  · unfold ifPruning
    split
    · exact preview_only run env
    · exact trivial
  intro known _ _
  refine Program.Obeys.andThen (free _ known
    (Program.Only.forM _ fun verb => ⟨rfl, fun _ => trivial⟩)) (fun _ _ _ => trivial) ?_
  intro known _ _
  refine Program.Obeys.andThen (free _ known (verify_only run)) (fun _ _ _ => trivial) ?_
  intro known _ _
  refine Program.Obeys.andThen (load_obeys _ known) (fun _ _ _ => trivial) ?_
  rintro known applied ⟨-, -, latest⟩
  refine Program.Obeys.andThen (record_obeys (latest applied rfl)) (fun _ _ _ => trivial) ?_
  intro known _ recorded
  unfold ifPruning
  split
  · exact executePrune_obeys (recorded rfl)
  · exact trivial

def ApplyState.claims (state : ApplyState) : OwnershipLedger := state.ledger.getD .default

/-- The ledger lists only what a successful apply declared, and every such
deployment that is still there. -/
structure LedgerKept (state : ApplyState) : Prop where
  live : census state.env ⊆ state.minted
  distinct : (state.minted.map (·.deploymentId)).Nodup
  apart : CustomersApart state.env
  readable : loadLedger state.ledger = .ok state.claims
  heard : ∀ applied ∈ state.history, applied.declared ⊆ state.minted
  earned : ∀ key owned, state.claims.Owns key owned →
    ∃ applied ∈ state.history, applied.key = key ∧ owned ∈ applied.declared
  kept : ∀ applied ∈ state.history, ∀ owned ∈ applied.declared, owned ∈ census state.env →
    state.claims.Owns applied.key owned

/-- An id stands for one deployment, of one bundle for one customer. -/
theorem LedgerKept.unique {state : ApplyState} (ledger : LedgerKept state)
    {left right : OwnedDeployment} (first : left ∈ state.minted) (second : right ∈ state.minted)
    (same : left.deploymentId = right.deploymentId) : left = right :=
  List.inj_on_of_nodup_map ledger.distinct first second same

theorem LedgerKept.fresh {env : Environment} (distinct : (deploymentIds env).Nodup)
    (apart : CustomersApart env) : LedgerKept ⟨env, none, [], census env⟩ where
  live := List.Subset.refl _
  distinct := by rw [census_ids]; exact distinct
  apart := apart
  readable := rfl
  heard := by nofun
  earned := by
    rintro key owned ⟨entry, member, -⟩
    cases member
  kept := by nofun

/-- A verb adds no deployment but under an id of its own. -/
def MintsFresh (state : ApplyState) (verb : Verb) : Prop :=
  ∀ owned, deploys verb = some owned → owned.deploymentId ∉ state.minted.map (·.deploymentId)

theorem minted_put {state : ApplyState} {verb : Verb} {env : Environment}
    {owned : OwnedDeployment} :
    owned ∈ (state.put env verb).minted ↔ owned ∈ state.minted ∨ deploys verb = some owned := by
  simp only [ApplyState.put, List.mem_append, Option.mem_toList]

theorem LedgerKept.put {state : ApplyState} {verb : Verb} (ledger : LedgerKept state)
    (fresh : MintsFresh state verb) :
    LedgerKept (state.put (persist serde ext state.env verb) verb) where
  live := by
    intro owned member
    rcases persist_census ext state.env verb member with old | new
    · exact minted_put.mpr (.inl (ledger.live old))
    · exact minted_put.mpr (.inr new)
  distinct := by
    simp only [ApplyState.put, List.map_append]
    refine List.nodup_append.mpr ⟨ledger.distinct, ?_, ?_⟩
    · cases deploys verb <;> simp
    · intro old before new after same
      obtain ⟨owned, added, rfl⟩ := List.mem_map.mp after
      exact fresh owned (Option.mem_toList.mp added) (same ▸ before)
  apart := persist_customersApart ext state.env verb ledger.apart
  readable := ledger.readable
  heard := fun applied member owned declared =>
    minted_put.mpr (.inl (ledger.heard applied member declared))
  earned := ledger.earned
  kept := by
    intro applied member owned declared deployed
    refine ledger.kept applied member owned declared ?_
    rcases persist_census ext state.env verb deployed with old | new
    · exact old
    · exact absurd (List.mem_map_of_mem (ledger.heard applied member declared)) (fresh owned new)

def ApplyState.recorded (state : ApplyState) (env : Environment) (owner : Owner)
    (declared : List DeploymentId) : ApplyState :=
  { state.succeed owner env declared with
    ledger := writeLedger state state.claims (recordOwnership env owner declared state.claims) }

theorem loadLedger_schema {file : Option OwnershipLedger} {ledger : OwnershipLedger}
    (loaded : loadLedger file = .ok ledger) : ledger.schema = ledgerSchemaV1 := by
  cases file with
  | none =>
      cases loaded
      rfl
  | some stored =>
      simp only [loadLedger] at loaded
      split at loaded
      · cases loaded
      · rename_i supported
        cases loaded
        exact not_not.mp supported

theorem recorded_ledger (state : ApplyState) (env : Environment) (owner : Owner)
    (declared : List DeploymentId) :
    (recordOwnership env owner declared state.claims = state.claims ∧
      (state.recorded env owner declared).ledger = state.ledger) ∨
    (state.recorded env owner declared).ledger =
      some (recordOwnership env owner declared state.claims) := by
  by_cases same : recordOwnership env owner declared state.claims = state.claims
  · exact .inl ⟨same, if_pos same⟩
  · exact .inr (if_neg same)

theorem recorded_claims (state : ApplyState) (env : Environment) (owner : Owner)
    (declared : List DeploymentId) :
    (state.recorded env owner declared).claims =
      recordOwnership env owner declared state.claims := by
  rcases recorded_ledger state env owner declared with ⟨same, unwritten⟩ | written
  · rw [same, ApplyState.claims, unwritten]
    rfl
  · rw [ApplyState.claims, written]
    rfl

theorem upToDate_owns {state : ApplyState} {env : Environment} (current : upToDate state env = true)
    {key : String} {owned : OwnedDeployment} (owns : state.claims.Owns key owned)
    (deployed : owned.deploymentId ∈ deploymentIds state.env) :
    owned.deploymentId ∈ deploymentIds env := by
  obtain ⟨entry, member, listed⟩ := owns
  have entries := List.all_eq_true.mp current (key, entry) member
  have either := of_decide_eq_true (List.all_eq_true.mp entries owned listed)
  exact either.resolve_left (not_not_intro deployed)

theorem mem_succeed {state : ApplyState} {env : Environment} {owner : Owner}
    {declared : List DeploymentId} {applied : Applied}
    (member : applied ∈ (state.recorded env owner declared).history) :
    applied ∈ state.history ∨
      applied = ⟨owner.key, (census env).filter fun owned => owned.deploymentId ∈ declared⟩ := by
  rcases List.mem_append.mp member with old | new
  · exact .inl old
  · exact .inr (List.mem_singleton.mp new)

theorem LedgerKept.recorded {state : ApplyState} {env : Environment} {owner : Owner}
    {declared : List DeploymentId} (ledger : LedgerKept state) (seen : census env ⊆ state.minted)
    (current : upToDate state env = true) : LedgerKept (state.recorded env owner declared) where
  live := ledger.live
  distinct := ledger.distinct
  apart := ledger.apart
  readable := by
    rcases recorded_ledger state env owner declared with ⟨same, unwritten⟩ | written
    · rw [recorded_claims, same, unwritten]
      exact ledger.readable
    · rw [recorded_claims, written]
      have schema : state.claims.schema = ledgerSchemaV1 := loadLedger_schema ledger.readable
      exact if_neg (not_not_intro schema)
  heard := by
    intro applied member owned listed
    rcases mem_succeed member with old | rfl
    · exact ledger.heard applied old listed
    · exact seen (List.mem_of_mem_filter listed)
  earned := by
    intro key owned owns
    rw [recorded_claims, recordOwnership_owns] at owns
    have before : ∀ owned, state.claims.Owns key owned →
        ∃ applied ∈ (state.recorded env owner declared).history,
          applied.key = key ∧ owned ∈ applied.declared := by
      intro owned owns
      obtain ⟨applied, member, rest⟩ := ledger.earned key owned owns
      exact ⟨applied, List.mem_append_left _ member, rest⟩
    rcases owns with ⟨rfl, deployed, new | ⟨old, owns, same⟩⟩ | ⟨other, owns, -⟩
    · exact ⟨_, List.mem_append_right _ List.mem_cons_self, rfl,
        List.mem_filter.mpr ⟨deployed, decide_eq_true new⟩⟩
    · obtain ⟨applied, member, keyed, listed⟩ := ledger.earned owner.key old owns
      have equal : old = owned := ledger.unique (ledger.heard applied member listed)
        (seen deployed) same
      exact before owned (equal ▸ owns)
    · exact before owned owns
  kept := by
    intro applied member owned listed deployed
    rw [recorded_claims, recordOwnership_owns]
    rcases mem_succeed member with old | rfl
    · have owns : state.claims.Owns applied.key owned := ledger.kept applied old owned listed deployed
      have still := upToDate_owns current owns (id_mem_of_census deployed)
      by_cases own : applied.key = owner.key
      · refine .inl ⟨own, ?_, .inr ⟨owned, owns, rfl⟩⟩
        rw [← census_ids] at still
        obtain ⟨found, inside, same⟩ := List.mem_map.mp still
        rw [← ledger.unique (seen inside) (ledger.live deployed) same]
        exact inside
      · exact .inr ⟨own, owns, still⟩
    · obtain ⟨inside, new⟩ := List.mem_filter.mp listed
      exact .inl ⟨rfl, inside, .inl (of_decide_eq_true new)⟩

/-- A deployment planned for retirement, whatever the others do: its own manifest
declared it and lists it no more, and while it lives no other manifest has. -/
structure Doomed (state : ApplyState) (run : ApplyRun) (id : DeploymentId) : Prop where
  declared : ∃ applied ∈ state.history, applied.key = run.owner.key ∧
    ∃ owned ∈ applied.declared, owned.deploymentId = id
  dropped : ∀ owned ∈ state.minted, owned.deploymentId = id →
    ⟨owned.bundleId, owned.customerId⟩ ∉ run.bundles
  unclaimed : id ∈ deploymentIds state.env → ∀ applied ∈ state.history,
    applied.key ≠ run.owner.key → ∀ owned ∈ applied.declared, owned.deploymentId ≠ id

structure StandingTrue (job : Job) (known : Standing) (state : ApplyState) : Prop where
  latest : ∀ env, known.latest = some env → census env ⊆ state.minted ∧ CustomersApart env
  planned : ∀ run, job = .apply run → ∀ id ∈ job.planned known, Doomed state run id

theorem Doomed.put {state : ApplyState} {run : ApplyRun} {id : DeploymentId} {verb : Verb}
    (ledger : LedgerKept state) (fresh : MintsFresh state verb) (doomed : Doomed state run id) :
    Doomed (state.put (persist serde ext state.env verb) verb) run id := by
  obtain ⟨applied, member, keyed, owned, listed, named⟩ := doomed.declared
  -- The id is an old one, so the verb cannot bring it back.
  have old : ∀ added, deploys verb = some added → added.deploymentId ≠ id := by
    intro added new same
    refine fresh added new ?_
    rw [same, ← named]
    exact List.mem_map_of_mem (ledger.heard applied member listed)
  refine ⟨doomed.declared, ?_, ?_⟩
  · intro added inside same
    rcases minted_put.mp inside with before | new
    · exact doomed.dropped added before same
    · exact absurd same (old added new)
  · intro deployed
    refine doomed.unclaimed ?_
    rw [← census_ids] at deployed
    obtain ⟨found, inside, same⟩ := List.mem_map.mp deployed
    rcases persist_census ext state.env verb inside with before | new
    · rw [← same]
      exact id_mem_of_census before
    · exact absurd same (old found new)

theorem StandingTrue.put {state : ApplyState} {job : Job} {known : Standing} {verb : Verb}
    (ledger : LedgerKept state) (fresh : MintsFresh state verb)
    (holds : StandingTrue job known state) :
    StandingTrue job known (state.put (persist serde ext state.env verb) verb) where
  latest := fun env seen => ⟨fun _ member => minted_put.mpr (.inl ((holds.latest env seen).1 member)),
    (holds.latest env seen).2⟩
  planned := fun run same id member => (holds.planned run same id member).put ledger fresh

/-- A record leaves a plan alone that it claims nothing of. -/
theorem StandingTrue.recorded {state : ApplyState} {job : Job} {known : Standing}
    {env : Environment} {owner : Owner} {declared : List DeploymentId}
    (holds : StandingTrue job known state)
    (clear : ∀ run, job = .apply run → run.owner.key ≠ owner.key →
      ∀ id ∈ declared, id ∉ job.planned known) :
    StandingTrue job known (state.recorded env owner declared) where
  latest := holds.latest
  planned := by
    intro run same id member
    obtain ⟨⟨applied, inside, rest⟩, dropped, unclaimed⟩ := holds.planned run same id member
    refine ⟨⟨applied, List.mem_append_left _ inside, rest⟩, dropped, ?_⟩
    intro deployed applied inside other owned listed
    rcases mem_succeed inside with old | rfl
    · exact unclaimed deployed applied old other owned listed
    · intro named
      have claimed := of_decide_eq_true (List.mem_filter.mp listed).2
      exact clear run same (fun key => other key.symm) _ claimed (named ▸ member)

theorem doomed_of_plan {state : ApplyState} {run : ApplyRun} {env : Environment}
    {id : DeploymentId} (ledger : LedgerKept state) (seen : census env ⊆ state.minted)
    (apart : CustomersApart env) (planned : id ∈ planOf run env state.claims) :
    Doomed state run id := by
  obtain ⟨prunable, undeclared⟩ := mem_prunePlan planned
  obtain ⟨⟨owned, deployed, owns, rfl⟩, elsewhere⟩ := mem_prunableBy prunable
  obtain ⟨applied, member, keyed, listed⟩ := ledger.earned _ _ owns
  refine ⟨⟨applied, member, keyed, owned, listed, rfl⟩, ?_, ?_⟩
  · intro other minted same declared
    rw [ledger.unique minted (seen deployed) same] at declared
    exact undeclared (mem_declaredIds apart deployed declared)
  · intro live other member apart claimed listed same
    rw [← census_ids] at live
    obtain ⟨found, inside, named⟩ := List.mem_map.mp live
    have equal : claimed = found := ledger.unique (ledger.heard other member listed)
      (ledger.live inside) (same.trans named.symm)
    have claims := ledger.kept other member claimed listed (equal ▸ inside)
    exact elsewhere other.key claimed apart claims same

theorem RetireStep.deploys_none (id : DeploymentId) (step : RetireStep) :
    deploys (step.verb id) = none := by cases step <;> rfl

inductive CallStep (serde : SerdeJson) (ext : Externals) (turn : Turn) (state : ApplyState)
    (c : ApplyCall) (after : ApplyState) : Prop
  | keep (same : after = state)
  | put (verb : Verb) (mints : c = .engine verb ∨ deploys verb = none)
      (stored : after = state.put (persist serde ext state.env verb) verb)
  | warn (env : Environment) (owner : Owner) (declared : List DeploymentId)
      (call : c = .record env owner declared false) (failed : turn = .breaks)
      (stored : after = state.succeed owner env declared)
  | record (env : Environment) (owner : Owner) (declared : List DeploymentId) (prune : Bool)
      (call : c = .record env owner declared prune)
      (stored : after = state.recorded env owner declared)

theorem execCall_step {state : ApplyState} (ledger : LedgerKept state) (turn : Turn)
    (c : ApplyCall) : CallStep serde ext turn state c (execCall serde ext turn state c).2 := by
  cases c with
  | loadEnv => exact .keep rfl
  | loadLedger => exact .keep rfl
  | hook => exact .keep rfl
  | engine verb =>
      simp only [execCall]
      split
      · exact .keep rfl
      · exact .put verb (.inl rfl) rfl
  | record env owner declared prune =>
      simp only [execCall, readLedger]
      by_cases failed : turn = .breaks
      · simp only [failed, if_true]
        cases prune with
        | true => exact .keep rfl
        | false => exact .warn env owner declared rfl rfl rfl
      · simp only [failed, if_false, ledger.readable]
        exact .record env owner declared prune rfl rfl
  | retire id step =>
      simp only [execCall]
      split
      · exact .keep rfl
      split
      · exact .put _ (.inr (step.deploys_none id)) rfl
      · exact .keep rfl

theorem mintsFresh_of {pool : ApplyPool} {c : ApplyCall} {verb : Verb}
    (may : freshCall pool c = true) (mints : c = .engine verb ∨ deploys verb = none) :
    MintsFresh pool.shared verb := by
  intro owned new
  rcases mints with rfl | none
  · simp only [freshCall, new, Option.all_some, decide_eq_true_eq] at may
    exact may
  · rw [none] at new
    cases new

/-- The applies as a system, its steps restricted to those that keep prunes apart. -/
abbrev keptApart (serde : SerdeJson) (ext : Externals) :
    System ApplyPool (PoolAction Job Turn Unit) :=
  (applies serde ext).system fun pool action => permits pool action = true

abbrev ApplySound (serde : SerdeJson) (ext : Externals) (pool : ApplyPool) : Prop :=
  (applies serde ext).Sound allowedCall (fun _ _ _ => True) LedgerKept StandingTrue pool

section Step

variable {pool : ApplyPool} {index : Nat} {turn : Turn}
  {task : Task Job ApplyCall ApplyReply Standing (Except Refusal Unit)} {c : ApplyCall}
  {next : ApplyReply c → Program ApplyCall ApplyReply (Except Refusal Unit)}

theorem permits_record {env : Environment} {owner : Owner} {declared : List DeploymentId}
    {prune : Bool} (may : apartCall pool turn (.record env owner declared prune) = true) :
    (turn ≠ .breaks ∨ prune = true) ∧ upToDate pool.shared env = true ∧
      clearOfPrunes pool owner declared = true := by
  simp only [apartCall, Bool.and_eq_true, Bool.or_eq_true, decide_eq_true_eq] at may
  exact ⟨may.1.1, may.1.2, may.2⟩

/-- A pass that breaks off records nothing without a prune. -/
theorem not_permitted_warn {env : Environment} {owner : Owner} {declared : List DeploymentId}
    (failed : turn = .breaks)
    (may : apartCall pool turn (.record env owner declared false) = true) : False := by
  rcases (permits_record may).1 with goes | wrong
  · exact goes failed
  · cases wrong

theorem ledgerKept_call (sound : ApplySound serde ext pool)
    (may : permits pool (.advance index turn) = true) (found : pool.tasks[index]? = some task)
    (program : task.program = .call c next) :
    LedgerKept (execCall serde ext turn pool.shared c).2 := by
  obtain ⟨fresh, permitted⟩ := permits_call may found program
  obtain ⟨leave, holds⟩ := sound.acting found program
  have step : CallStep serde ext turn pool.shared c (execCall serde ext turn pool.shared c).2 :=
    execCall_step sound.inv turn c
  cases step with
  | keep same =>
      rw [same]
      exact sound.inv
  | put verb mints stored =>
      rw [stored]
      exact sound.inv.put (mintsFresh_of fresh mints)
  | warn env owner declared call failed stored =>
      subst call
      exact (not_permitted_warn failed permitted).elim
  | record env owner declared prune call stored =>
      subst call
      rw [stored]
      exact sound.inv.recorded (holds.latest env leave.1).1 (permits_record permitted).2.1

theorem standing_stable (sound : ApplySound serde ext pool)
    (may : permits pool (.advance index turn) = true) (found : pool.tasks[index]? = some task)
    (program : task.program = .call c next)
    (other : Task Job ApplyCall ApplyReply Standing (Except Refusal Unit))
    (member : other ∈ pool.tasks) (inFlight : other.InFlight)
    (holds : StandingTrue other.tag other.known pool.shared) :
    StandingTrue other.tag other.known (execCall serde ext turn pool.shared c).2 := by
  obtain ⟨fresh, permitted⟩ := permits_call may found program
  have step : CallStep serde ext turn pool.shared c (execCall serde ext turn pool.shared c).2 :=
    execCall_step sound.inv turn c
  cases step with
  | keep same =>
      rw [same]
      exact holds
  | put verb mints stored =>
      rw [stored]
      exact holds.put sound.inv (mintsFresh_of fresh mints)
  | warn env owner declared call failed stored =>
      subst call
      exact (not_permitted_warn failed permitted).elim
  | record env owner declared prune call stored =>
      subst call
      rw [stored]
      refine holds.recorded ?_
      intro run tagged apart
      have clear := List.all_eq_true.mp (permits_record permitted).2.2 other member
      simp only [tagged, decide_eq_true_eq] at clear
      have free := (clear.resolve_left apart).resolve_left (not_not_intro inFlight)
      rw [tagged]
      exact free

theorem planned_start (job : Job) (known : Standing) (unseen : known.view = none) :
    job.planned known = [] := by
  cases job with
  | apply run => simp only [Job.planned, unseen]
  | operate verb => rfl

/-- What a reply teaches is true. -/
theorem standing_learned {job : Job} {known : Standing} {state : ApplyState}
    (ledger : LedgerKept state) (c : ApplyCall)
    (holds : StandingTrue job known (execCall serde ext turn state c).2) :
    StandingTrue job (known.learn c (execCall serde ext turn state c).1)
      (execCall serde ext turn state c).2 := by
  cases c with
  | loadEnv =>
      simp only [execCall] at holds ⊢
      by_cases failed : turn = .breaks
      · rw [if_pos failed]
        exact holds
      · rw [if_neg failed]
        refine ⟨?_, holds.planned⟩
        intro env seen
        cases seen
        exact ⟨ledger.live, ledger.apart⟩
  | loadLedger =>
      simp only [execCall, readLedger] at holds ⊢
      by_cases failed : turn = .breaks
      · rw [if_pos failed]
        exact holds
      · rw [if_neg failed, ledger.readable]
        simp only [Except.mapError, Standing.learn]
        split
        · refine ⟨holds.latest, ?_⟩
          intro run tagged id planned
          subst tagged
          cases seen : known.latest with
          | none =>
              simp only [Job.planned, seen, Option.map_none] at planned
              cases planned
          | some env =>
              simp only [Job.planned, seen, Option.map_some] at planned
              obtain ⟨inside, apart⟩ := holds.latest env seen
              exact doomed_of_plan ledger inside apart planned
        · exact holds
  | record env owner declared prune =>
      cases reply : (execCall serde ext turn state (.record env owner declared prune)).1 with
      | error e => exact holds
      | ok done =>
          refine ⟨holds.latest, ?_⟩
          intro run tagged id planned
          rw [planned_start job _ rfl] at planned
          cases planned
  | hook => exact holds
  | engine verb => exact holds
  | retire id step => exact holds

end Step

theorem applies_rules : (applies serde ext).Rules (fun pool action => permits pool action = true)
    allowedCall (fun _ _ _ => True) LedgerKept StandingTrue where
  body := by
    intro job
    cases job with
    | apply run => exact applyManifest_obeys run _
    | operate verb => exact ⟨trivial, fun _ => trivial⟩
  start := by
    intro job state _
    constructor
    · intro env wrong
      cases wrong
    · intro run tagged id planned
      rw [planned_start job _ rfl] at planned
      cases planned
  reset := fun _ _ _ held => held
  inv := fun pool index turn task c next may found program sound =>
    ledgerKept_call sound may found program
  learned := by
    intro pool index turn task c next may found program sound
    have member := List.mem_of_getElem? found
    have inFlight : task.InFlight := ⟨c, next, program⟩
    exact standing_learned sound.inv c (standing_stable sound may found program task member
      inFlight (sound.known task member inFlight))
  stable := fun pool index turn task c next may found program sound =>
    standing_stable sound may found program

theorem latestApply_mem {history : List Applied} {key : String} {applied : Applied}
    (latest : latestApply history key = some applied) :
    applied ∈ history ∧ applied.key = key := by
  have member := List.mem_of_getLast? latest
  have both := List.mem_filter.mp member
  exact ⟨both.1, of_decide_eq_true both.2⟩

theorem Doomed.prunable {state : ApplyState} {run : ApplyRun} {id : DeploymentId}
    (ledger : LedgerKept state) (doomed : Doomed state run id)
    (live : id ∈ deploymentIds state.env) : Prunable state run id := by
  obtain ⟨applied, member, keyed, owned, listed, named⟩ := doomed.declared
  refine ⟨⟨applied, member, keyed, owned, listed, named, ?_⟩, ?_, ?_⟩
  · have inside := live
    rw [← census_ids] at inside
    obtain ⟨found, deployed, same⟩ := List.mem_map.mp inside
    rw [ledger.unique (ledger.heard applied member listed) (ledger.live deployed)
      (named.trans same.symm)]
    exact deployed
  · exact fun other deployed same => doomed.dropped other (ledger.live deployed) same
  · intro key other apart latest owned listed
    obtain ⟨inside, keyed⟩ := latestApply_mem latest
    exact doomed.unclaimed live other inside (keyed ▸ apart) owned listed

theorem prunesIsolated_of_sound {pool : ApplyPool} (sound : ApplySound serde ext pool) :
    PrunesIsolated pool := by
  intro task member run tagged id step next program live
  have obeyed := sound.obeys task member
  rw [program] at obeyed
  have holds := sound.known task member ⟨_, next, program⟩
  have doomed : Doomed pool.shared run id := holds.planned run tagged id obeyed.1
  exact doomed.prunable sound.inv live

/-- Along every run whose steps keep prunes apart, from an environment no manifest
was applied to, a prune retires only what its manifest declared, lists no more, and
no other manifest's last successful apply declared. -/
theorem prunes_isolated (env : Environment) (distinct : (deploymentIds env).Nodup)
    (apart : CustomersApart env) (actions : List (PoolAction Job Turn Unit))
    (admits : (keptApart serde ext).Admits ⟨⟨env, none, [], census env⟩, []⟩ actions) :
    PrunesIsolated ((keptApart serde ext).run ⟨⟨env, none, [], census env⟩, []⟩ actions) :=
  prunesIsolated_of_sound ((applies serde ext).sound_run applies_rules _ actions admits
    ((applies serde ext).sound_empty (LedgerKept.fresh distinct apart)))

def shopOwner : Owner := ⟨"manifest:0a", "/srv/shop.yaml"⟩
def mallOwner : Owner := ⟨"manifest:0b", "/srv/mall.yaml"⟩

/-- An apply of a manifest that finds its environment as it wants it. -/
def settledApply (owner : Owner) (bundles : List Declaration) (prune : Bool) : Job :=
  .apply ⟨owner, bundles, prune, fun _ => [], fun _ => true⟩

def demoDeclaration : Declaration := ⟨demoBundle.bundleId, demoBundle.customerId⟩

def turns (index count : Nat) : List (PoolAction Job Turn Unit) :=
  List.replicate count (.advance index .goes)

/-- One manifest adopts the deployment, another is applied beside it, and the first
drops the deployment and prunes. -/
def quietPrune : List (PoolAction Job Turn Unit) :=
  [.arrive (settledApply shopOwner [demoDeclaration] false),
    .arrive (settledApply mallOwner [] false)] ++ turns 0 3 ++ turns 1 3 ++ turns 0 1 ++ turns 1 1 ++
    [.arrive (settledApply shopOwner [] true)] ++ turns 2 11

/-- One manifest adopts the deployment and drops it again; its prune is planned
and checked when the other manifest adopts the deployment, and then goes ahead. -/
def racedPrune : List (PoolAction Job Turn Unit) :=
  [.arrive (settledApply shopOwner [demoDeclaration] false)] ++ turns 0 4 ++
    [.arrive (settledApply shopOwner [] true)] ++ turns 1 9 ++
    [.arrive (settledApply mallOwner [demoDeclaration] false)] ++ turns 2 4 ++ turns 1 2

/-- The applies with nothing asked of a step but fresh ids. -/
abbrev anyApplies (serde : SerdeJson) (ext : Externals) :
    System ApplyPool (PoolAction Job Turn Unit) :=
  (applies serde ext).system fun pool action => freshIds pool action = true

instance (env : Environment) : Decidable (CustomersApart env) :=
  inferInstanceAs (Decidable (List.Nodup _))

instance (serde : SerdeJson) (ext : Externals) (pool : ApplyPool)
    (action : PoolAction Job Turn Unit) : Decidable ((anyApplies serde ext).allowed pool action) :=
  inferInstanceAs (Decidable (freshIds pool action = true))

instance (serde : SerdeJson) (ext : Externals) (pool : ApplyPool)
    (action : PoolAction Job Turn Unit) : Decidable ((keptApart serde ext).allowed pool action) :=
  inferInstanceAs (Decidable (permits pool action = true))

def retireNext (pool : ApplyPool) (index : Nat) : Option (String × DeploymentId) :=
  match pool.tasks[index]?.map Task.tag, nextCall pool index with
  | some (.apply run), some (.retire id _) => some (run.owner.key, id)
  | _, _ => none

theorem PrunesIsolated.retireNext {pool : ApplyPool} (isolated : PrunesIsolated pool)
    (index : Nat) (key : String) (id : DeploymentId)
    (retires : retireNext pool index = some (key, id))
    (live : id ∈ deploymentIds pool.shared.env) :
    ∃ run, run.owner.key = key ∧ Prunable pool.shared run id := by
  unfold Apply.retireNext at retires
  split at retires
  · rename_i run other step tagged called
    cases retires
    obtain ⟨task, next, found, program⟩ := nextCall_eq.mp called
    rw [found] at tagged
    cases tag : task.tag with
    | apply owned =>
        simp only [Option.map_some, tag, Option.some.injEq, Job.apply.injEq] at tagged
        subst tagged
        exact ⟨_, rfl, isolated task (List.mem_of_getElem? found) _ tag _ step next program live⟩
    | operate verb => simp [tag] at tagged
  · cases retires

theorem prunes_isolated_of_quietPrune :
    retireNext ((keptApart firstSplitJson noExternals).run
        ⟨⟨deployedOnly, none, [], census deployedOnly⟩, []⟩ quietPrune) 2 =
      some (shopOwner.key, ⟨1⟩) ∧
    PrunesIsolated ((keptApart firstSplitJson noExternals).run
      ⟨⟨deployedOnly, none, [], census deployedOnly⟩, []⟩ quietPrune) :=
  ⟨by decide, prunes_isolated deployedOnly (by decide) (by decide)
    quietPrune (by decide)⟩

theorem prune_takes_claimed :
    ¬ ∀ (serde : SerdeJson) (ext : Externals) (env : Environment)
      (actions : List (PoolAction Job Turn Unit)), (deploymentIds env).Nodup →
      CustomersApart env →
      (anyApplies serde ext).Admits ⟨⟨env, none, [], census env⟩, []⟩ actions →
      PrunesIsolated ((anyApplies serde ext).run ⟨⟨env, none, [], census env⟩, []⟩ actions) := by
  intro claim
  have isolated := claim firstSplitJson noExternals deployedOnly racedPrune (by decide)
    (by decide) (by decide)
  obtain ⟨run, keyed, prunable⟩ := isolated.retireNext 1 "manifest:0a" ⟨1⟩
    (by decide) (by decide)
  have unclaimed := prunable.unclaimed mallOwner.key
    ⟨mallOwner.key, [⟨⟨1⟩, demoBundle.bundleId, demoBundle.customerId⟩]⟩
    (by rw [keyed]; decide) (by decide)
  exact unclaimed _ List.mem_cons_self rfl

end GreenticDeployer.Apply
