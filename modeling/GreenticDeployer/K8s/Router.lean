import GreenticDeployer.CloudRun.Archive
import GreenticDeployer.CloudRun.Service
import GreenticDeployer.Lib.Programs
import GreenticDeployer.Local.PolicyFiles
import GreenticDeployer.Local.RuntimeConfig
import GreenticDeployer.Sor.Cluster

/-!
# The router of a Kubernetes environment

A drain, a split and a reconcile each project the splits of an environment they
loaded into the config map the router reloads; a drain then stops a worker.
Nothing is locked between the load and the last of these steps, and the verbs of
other operators take effect in between.
-/

set_option maxHeartbeats 200000

namespace GreenticDeployer.K8s

open Spec Engine Lib
open Local (Turn RuntimeConfig materializeRuntimeConfig)
open Sor (ObjectRef Manifest K8sParams)
open CloudRun (recordedWeightBps)

/-- The text under `runtime-config.json`, as the reader parses it. -/
inductive ConfigText
  | config (config : RuntimeConfig)
  | unreadable
  deriving DecidableEq

/-- The router's config map: its environment label and its one key. -/
structure ConfigMap where
  envLabel : Option EnvId
  runtimeConfig : Option ConfigText
  deriving DecidableEq

def runtimeConfigMapRef (params : K8sParams) : ObjectRef :=
  ⟨"v1", "ConfigMap", some params.namespaceName, Sor.runtimeConfigMapName⟩

def renderRuntimeConfigMap (env : Environment) : ConfigMap :=
  ⟨some env.environmentId, some (.config (materializeRuntimeConfig env))⟩

/-- The stored environment. What it is counted by, the changes of its splits so
far, no program reads. -/
structure Snapshot where
  env : Environment
  changes : Nat

/-- The store and the config maps of the cluster. Beside them the history: the
newest split change a push has carried, and the weight the recorded splits gave
each revision at the moment its worker was scaled to zero. -/
structure World where
  store : Snapshot
  configMaps : ObjectRef → Option ConfigMap
  covered : Option Nat
  stops : List (RevisionId × Nat)

/-- A worker's Deployment, and whose it is. -/
structure Worker where
  revisionId : RevisionId
  deployment : ObjectRef

structure RolloutStatus where
  replicas : Nat
  availableReplicas : Nat

inductive RouterCall
  | loadEnv
  | load
  | stampDraining (revisionId : RevisionId)
  | runVerb (verb : Verb)
  | pushRuntimeConfig (ref : ObjectRef) (map : ConfigMap) (changes : Nat)
  | apply (manifest : Manifest)
  | delete (ref : ObjectRef)
  | getConfigMap (ref : ObjectRef)
  | sleep (seconds : Nat)
  | scaleToZero (worker : Worker)
  | rolloutStatus (deployment : ObjectRef)

@[reducible] def RouterCall.Reply : RouterCall → Type
  | loadEnv => Option Environment
  | load => Option Snapshot
  | getConfigMap _ => Option (Option ConfigMap)
  | rolloutStatus _ => Option (Option RolloutStatus)
  | sleep _ => Unit
  | _ => Option Unit

/-- How a call goes, and what the cluster reports of a rollout. -/
structure Outside where
  turn : Turn
  rollout : Option RolloutStatus

/-- The ownership guard of an apply: an object with another environment's label is
not taken over. -/
def World.takes (world : World) (ref : ObjectRef) (map : ConfigMap) : Bool :=
  (world.configMaps ref).all fun live =>
    live.envLabel = none ∨ map.envLabel = none ∨ live.envLabel = map.envLabel

def Snapshot.saved (store : Snapshot) (after : Environment) : Snapshot :=
  ⟨after, if after.trafficSplits = store.env.trafficSplits then store.changes
    else store.changes + 1⟩

def World.saved (world : World) (after : Environment) : World :=
  { world with store := world.store.saved after }

def World.pushed (world : World) (ref : ObjectRef) (map : ConfigMap) (changes : Nat) : World :=
  { world with
    configMaps := Function.update world.configMaps ref (some map)
    covered := some (world.covered.elim changes (max changes)) }

def World.stopped (world : World) (revisionId : RevisionId) : World :=
  { world with stops := world.stops ++ [(revisionId, recordedWeightBps world.store.env revisionId)] }

/-- Where a run starts: no push and no stop yet. -/
def World.start (env : Environment) (configMaps : ObjectRef → Option ConfigMap) : World :=
  ⟨⟨env, 0⟩, configMaps, none, []⟩

def change (turn : Turn) (world changed : World) : Option Unit × World :=
  (turn.reply, if turn.effective then changed else world)

section Calls

variable (serde : SerdeJson) (ext : Externals)

/-- One call. The two that run a verb load, apply and save under the environment
lock. -/
def access (outside : Outside) (world : World) : (call : RouterCall) → call.Reply × World
  | .loadEnv => (outside.turn.reply.map fun _ => world.store.env, world)
  | .load => (outside.turn.reply.map fun _ => world.store, world)
  | .stampDraining revisionId =>
    match drainRevision world.store.env revisionId with
    | (.ok _, after) => change outside.turn world (world.saved after)
    | (.error _, _) => (none, world)
  | .runVerb verb =>
    change outside.turn world (world.saved (persist serde ext world.store.env verb))
  | .pushRuntimeConfig ref map changes =>
    if world.takes ref map then change outside.turn world (world.pushed ref map changes)
    else (none, world)
  | .apply _ => (outside.turn.reply, world)
  | .delete ref => change outside.turn world
      { world with configMaps := Function.update world.configMaps ref none }
  | .getConfigMap ref => (outside.turn.reply.map fun _ => world.configMaps ref, world)
  | .sleep _ => ((), world)
  | .scaleToZero worker => change outside.turn world (world.stopped worker.revisionId)
  | .rolloutStatus _ => (outside.turn.reply.map fun _ => outside.rollout, world)

def RouterCall.verb : RouterCall → Option Verb
  | .stampDraining revisionId => some (.drainRevision revisionId)
  | .runVerb engineVerb => some engineVerb
  | _ => none

theorem change_cases (turn : Turn) (world changed : World) :
    (change turn world changed).2 = world ∨ (change turn world changed).2 = changed := by
  unfold change
  cases turn.effective with
  | false => exact .inl rfl
  | true => exact .inr rfl

/-- What a call may do: nothing, a verb, a push, a deletion or a stop. -/
theorem access_cases (outside : Outside) (world : World) (call : RouterCall) :
    (access serde ext outside world call).2 = world ∨
    (∃ verb ∈ call.verb, (access serde ext outside world call).2 =
      world.saved (persist serde ext world.store.env verb)) ∨
    (∃ ref map changes, call = .pushRuntimeConfig ref map changes ∧
      (access serde ext outside world call).2 = world.pushed ref map changes) ∨
    (∃ ref, call = .delete ref ∧ (access serde ext outside world call).2 =
      { world with configMaps := Function.update world.configMaps ref none }) ∨
    ∃ worker, call = .scaleToZero worker ∧
      (access serde ext outside world call).2 = world.stopped worker.revisionId := by
  cases call with
  | stampDraining revisionId =>
      simp only [access]
      split
      · next transition after ran =>
          rcases change_cases outside.turn world (world.saved after) with same | saved
          · exact .inl same
          · refine .inr (.inl ⟨_, rfl, ?_⟩)
            rw [saved, persist, ran, persistRevision]
      · exact .inl rfl
  | runVerb engineVerb =>
      refine (change_cases _ _ _).imp id fun saved => ?_
      exact .inl ⟨engineVerb, rfl, saved⟩
  | pushRuntimeConfig ref map changes =>
      simp only [access]
      split
      · refine (change_cases _ _ _).imp id fun pushed => ?_
        exact .inr (.inl ⟨ref, map, changes, rfl, pushed⟩)
      · exact .inl rfl
  | delete ref =>
      refine (change_cases _ _ _).imp id fun deleted => ?_
      exact .inr (.inr (.inl ⟨ref, rfl, deleted⟩))
  | scaleToZero worker =>
      refine (change_cases _ _ _).imp id fun stopped => ?_
      exact .inr (.inr (.inr ⟨worker, rfl, stopped⟩))
  | _ => exact .inl rfl

end Calls

inductive NotDrainedReason
  | recordedWeight (weight : Nat)
  | noRuntimeConfig (configMap : ObjectRef)
  | unreadable (configMap : ObjectRef)
  | liveWeight (configMap : ObjectRef) (weight : Nat)
  | stillRuns (deployment : ObjectRef) (replicas available : Nat)
  deriving DecidableEq

/-- The failures of the store, of the deployer and of its provider. -/
inductive RouterError
  | store
  | revisionNotFound (envId : EnvId) (revisionId : RevisionId)
  | split (error : CloudRun.DeployerError)
  | notDrained (revisionId : RevisionId) (reason : NotDrainedReason)
  | invalidAnswers
  | provider
  deriving DecidableEq

abbrev Operating (α : Type) := Program.Fallible RouterCall RouterCall.Reply RouterError α

def attempt (error : RouterError) (call : RouterCall) {α : Type}
    (outcome : call.Reply → Option α) : Operating α :=
  Program.ask call fun reply =>
    match outcome reply with
    | some value => .ok value
    | none => .error error

def load : Operating Snapshot := attempt .store .load id

/-- What a drain waits for; `windowOverride` is the caller's own. -/
structure DrainPolicy where
  maxWait : Nat
  windowOverride : Option Nat

def drainDurationCeiling : Nat := 24 * 60 * 60

def DrainPolicy.window (policy : DrainPolicy) (revision : Revision) : Nat :=
  match policy.windowOverride with
  | some window => min window drainDurationCeiling
  | none => min (min revision.drainSeconds.toNat policy.maxWait) drainDurationCeiling

def requireUnrouted (env : Environment) (revisionId : RevisionId) : Except RouterError Unit :=
  if recordedWeightBps env revisionId = 0 then .ok ()
  else .error (.notDrained revisionId (.recordedWeight (recordedWeightBps env revisionId)))

/-- `op env drain-revision` asks only of an environment that has the revision. -/
def parseRevision (env : Environment) (revisionId : RevisionId) : Except RouterError Unit :=
  if (revisionOf env revisionId).isSome then .ok ()
  else .error (.revisionNotFound env.environmentId revisionId)

def liveWeight (ref : ObjectRef) (revisionId : RevisionId) (live : ConfigMap) :
    Except RouterError Nat :=
  match live.runtimeConfig with
  | none => .error (.notDrained revisionId (.noRuntimeConfig ref))
  | some .unreadable => .error (.notDrained revisionId (.unreadable ref))
  | some (.config config) =>
    .ok ((config.revisions.filter fun block => block.revisionId = revisionId).map
      fun block => block.weightBps.toNat).sum

def judgeRouter (ref : ObjectRef) (revisionId : RevisionId) (live : Option ConfigMap) :
    Except RouterError Unit :=
  match live with
  | none => .ok ()
  | some map => do
    let weight ← liveWeight ref revisionId map
    if weight = 0 then .ok () else .error (.notDrained revisionId (.liveWeight ref weight))

section Operations

variable (answers : Option K8sParams) (policy : DrainPolicy)

def paramsFromAnswers : Except RouterError K8sParams := answers.elim (.error .invalidAnswers) .ok

def workerDeployment (env : Environment) (revisionId : RevisionId) : Except RouterError Worker :=
  match revisionOf env revisionId with
  | none => .error (.revisionNotFound env.environmentId revisionId)
  | some revision => do
    let params ← paramsFromAnswers answers
    .ok ⟨revisionId, "apps/v1", "Deployment", some params.namespaceName, Sor.workerName revision⟩

/-- The apply of the config map rendered from a loaded environment. -/
def push (loaded : Snapshot) (params : K8sParams) : Operating Unit :=
  attempt .provider (.pushRuntimeConfig (runtimeConfigMapRef params)
    (renderRuntimeConfigMap loaded.env) loaded.changes) id

def requireRouterUnrouted (params : K8sParams) (revisionId : RevisionId) : Operating Unit := do
  let live ← attempt .provider (.getConfigMap (runtimeConfigMapRef params)) id
  Program.lift (judgeRouter (runtimeConfigMapRef params) revisionId live)

def drainWindow (env : Environment) (revisionId : RevisionId) : Nat :=
  ((revisionOf env revisionId).map policy.window).getD 0

def probeDrained (deployment : ObjectRef) (status : Option RolloutStatus) :
    Except NotDrainedReason Unit :=
  match status with
  | none => .ok ()
  | some s =>
    if s.availableReplicas = 0 ∧ s.replicas = 0 then .ok ()
    else .error (.stillRuns deployment s.replicas s.availableReplicas)

/-- Probe once, and again as often as the timeout leaves time for. -/
def confirmWithin (worker : Worker) : Nat → Operating Unit
  | 0 => do
    let status ← attempt .provider (.rolloutStatus worker.deployment) id
    Program.lift ((probeDrained worker.deployment status).mapError (.notDrained worker.revisionId))
  | probes + 1 => do
    let status ← attempt .provider (.rolloutStatus worker.deployment) id
    match probeDrained worker.deployment status with
    | .ok () => pure ()
    | .error _ => confirmWithin worker probes

/-- `drain_enforced`: the split is cut and read back, the window passes, and the
worker is stopped. -/
def drainEnforced (loaded : Snapshot) (revisionId : RevisionId) (probes : Nat) :
    Operating Unit := do
  let worker ← Program.lift (workerDeployment answers loaded.env revisionId)
  Program.lift (requireUnrouted loaded.env revisionId)
  let params ← Program.lift (paramsFromAnswers answers)
  push loaded params
  requireRouterUnrouted params revisionId
  Program.ask (.sleep (drainWindow policy loaded.env revisionId)) .ok
  attempt .provider (.scaleToZero worker) id
  confirmWithin worker probes

def stampReady (env : Environment) (revisionId : RevisionId) : Operating Unit :=
  if env.revisions.any fun r => r.revisionId = revisionId ∧ r.lifecycle = .ready then
    attempt .store (.stampDraining revisionId) id
  else pure ()

/-- `op env drain-revision`: the environment is loaded again after the stamp. -/
def drainRevisionWith (revisionId : RevisionId) (probes : Nat) : Operating Unit := do
  let env ← attempt .store .loadEnv id
  Program.lift (parseRevision env revisionId)
  stampReady env revisionId
  let loaded ← load
  drainEnforced answers policy loaded revisionId probes

def applyTrafficSplit (deploymentId : DeploymentId) : Operating Unit := do
  let loaded ← load
  let _ ← Program.lift
    ((CloudRun.enforceSplitInvariants loaded.env deploymentId).mapError .split)
  let params ← Program.lift (paramsFromAnswers answers)
  push loaded params

/-- One manifest of the desired state; the config map is the one with contents. -/
def applyManifest (loaded : Snapshot) (params : K8sParams) (manifest : Manifest) :
    Operating Unit :=
  if manifest.ref = runtimeConfigMapRef params then push loaded params
  else attempt .provider (.apply manifest) id

/-- What `prune_absent` deletes. -/
def pruned (params : K8sParams) (env : Environment) : List ObjectRef :=
  (if params.secretsBackend = .vault then [(Sor.renderDevSecretsSecret params).ref] else []) ++
    ((env.revisions.filter fun r => !Sor.hasClusterPresence r.lifecycle).flatMap
      fun r => (Sor.renderWorkerManifests params r).map Manifest.ref) ++
    if params.ingressHost = none then [(Sor.renderIngress params).ref] else []

def reconcile (manageNamespace : Bool) : Operating Unit := do
  let loaded ← load
  let params ← Program.lift (paramsFromAnswers answers)
  ((Sor.renderEnvironment params loaded.env).filter fun manifest =>
    manageNamespace || !Sor.isClusterScoped manifest).forM (applyManifest loaded params)
  (pruned params loaded.env).forM fun ref => attempt .provider (.delete ref) id

inductive Operation
  | drainRevision (revisionId : RevisionId) (probes : Nat)
  | applyTrafficSplit (deploymentId : DeploymentId)
  | reconcile (manageNamespace : Bool)
  | verb (verb : Verb)

def Operation.body : Operation → Operating Unit
  | .drainRevision revisionId probes => drainRevisionWith answers policy revisionId probes
  | .applyTrafficSplit deploymentId => K8s.applyTrafficSplit answers deploymentId
  | .reconcile manageNamespace => K8s.reconcile answers manageNamespace
  | .verb engineVerb => attempt .store (.runVerb engineVerb) id

end Operations

/-- What an operation goes by: the environment it loaded to act on, until it has
stopped a worker. -/
def learn : Option Snapshot → (call : RouterCall) → call.Reply → Option Snapshot
  | known, .load, reply => reply.or known
  | _, .scaleToZero _, _ => none
  | known, _, _ => known

/-- The reply to a call leaves an operation going by what it did, by what is stored, or
by nothing. -/
theorem learn_cases (serde : SerdeJson) (ext : Externals) (known : Option Snapshot)
    (outside : Outside) (world : World) (call : RouterCall) :
    learn known call (access serde ext outside world call).1 = known ∨
    (learn known call (access serde ext outside world call).1 = some world.store ∧
      (access serde ext outside world call).2 = world) ∨
    learn known call (access serde ext outside world call).1 = none := by
  cases call with
  | load =>
      simp only [access]
      cases outside.turn.reply with
      | none => exact .inl rfl
      | some done => exact .inr (.inl ⟨rfl, trivial⟩)
  | scaleToZero worker => exact .inr (.inr rfl)
  | _ => exact .inl rfl

section System

variable (serde : SerdeJson) (ext : Externals) (answers : Option K8sParams) (policy : DrainPolicy)

/-- Operations of any number of operators on one environment. A restart cuts all
that are in flight. -/
def operations : Interleaving World Operation RouterCall RouterCall.Reply (Option Snapshot)
    (Except RouterError Unit) Outside Unit where
  exec := access serde ext
  reset := fun world _ => world
  start := fun _ => none
  body := fun operation => (operation.body answers policy).run
  learn := learn

abbrev OperationPool := Pool World Operation RouterCall RouterCall.Reply (Option Snapshot)
  (Except RouterError Unit)

abbrev OperationAction := PoolAction Operation Outside Unit

def Permits : Operation → Option Snapshot → RouterCall → Prop
  | _, known, .pushRuntimeConfig ref map changes =>
    ∃ loaded ∈ known, ∃ params ∈ answers, ref = runtimeConfigMapRef params ∧
      map = renderRuntimeConfigMap loaded.env ∧ changes = loaded.changes
  | operation, known, .scaleToZero worker =>
    (∃ probes, operation = .drainRevision worker.revisionId probes) ∧
      ∃ loaded ∈ known, recordedWeightBps loaded.env worker.revisionId = 0
  | operation, _, .runVerb verb => operation = .verb verb
  | _, _, .delete ref => ref.kind ≠ "ConfigMap"
  | _, _, _ => True

end System

section Protocol

variable {answers : Option K8sParams} {policy : DrainPolicy} {operation : Operation}
variable {known : Option Snapshot} {α β : Type}

def Follows (answers : Option K8sParams) (operation : Operation) (known : Option Snapshot)
    (program : Operating α) : Prop :=
  program.run.Obeys (Permits answers operation) learn (fun _ _ => True) known

/-- The program makes permitted calls only, and goes by the same environment after. -/
def Keeps (answers : Option K8sParams) (operation : Operation) (known : Option Snapshot)
    (program : Operating α) : Prop :=
  program.run.Obeys (Permits answers operation) learn (fun k _ => k = known) known

theorem Keeps.follows {program : Operating α} (keeps : Keeps answers operation known program) :
    Follows answers operation known program :=
  Program.Obeys.mono keeps fun _ _ _ => trivial

theorem Keeps.done (value : α) : Keeps answers operation known (pure value) := rfl

theorem Keeps.lift (outcome : Except RouterError α) :
    Keeps answers operation known (Program.lift outcome) := rfl

theorem Keeps.attempt {error : RouterError} {call : RouterCall} {outcome : call.Reply → Option α}
    (may : Permits answers operation known call) (same : ∀ reply, learn known call reply = known) :
    Keeps answers operation known (attempt error call outcome) :=
  Program.Obeys.ask may same

theorem Keeps.andThen {program : Operating α} {f : α → Operating β}
    (first : Keeps answers operation known program)
    (rest : ∀ a, Keeps answers operation known (f a)) :
    Keeps answers operation known (program >>= f) := by
  refine Program.Obeys.andThen first (fun _ _ same => same) ?_
  intro k a same
  rw [same]
  exact rest a

theorem Keeps.forM {items : List α} {body : α → Operating PUnit}
    (turn : ∀ item ∈ items, Keeps answers operation known (body item)) :
    Keeps answers operation known (items.forM body) := by
  refine Program.Obeys.forM (fun k => k = known) items rfl ?_
  intro item member k same
  rw [same]
  exact turn item member

theorem Follows.andThen {program : Operating α} {f : α → Operating β}
    (first : Keeps answers operation known program)
    (rest : ∀ a, Follows answers operation known (f a)) :
    Follows answers operation known (program >>= f) := by
  refine Program.Obeys.andThen first (fun _ _ _ => trivial) ?_
  intro k a same
  rw [same]
  exact rest a

theorem Follows.checks {outcome : Except RouterError α} {f : α → Operating β}
    (rest : ∀ a, outcome = .ok a → Follows answers operation known (f a)) :
    Follows answers operation known (Program.lift outcome >>= f) := by
  cases outcome with
  | error e => trivial
  | ok a => exact rest a rfl

theorem Follows.load {f : Snapshot → Operating β}
    (rest : ∀ loaded, Follows answers operation (some loaded) (f loaded)) :
    Follows answers operation known (K8s.load >>= f) := by
  refine ⟨trivial, ?_⟩
  intro reply
  cases reply with
  | none => trivial
  | some loaded => exact rest loaded

theorem Follows.scale {worker : Worker} {f : Unit → Operating β}
    (may : Permits answers operation known (.scaleToZero worker))
    (rest : Follows answers operation none (f ())) :
    Follows answers operation known (K8s.attempt .provider (.scaleToZero worker) id >>= f) := by
  refine ⟨may, ?_⟩
  intro reply
  cases reply with
  | none => trivial
  | some done => exact rest

theorem paramsFromAnswers_ok {params : K8sParams} (ok : paramsFromAnswers answers = .ok params) :
    params ∈ answers := by
  cases answers with
  | none => cases ok
  | some recorded =>
      cases ok
      exact rfl

theorem requireUnrouted_ok {env : Environment} {revisionId : RevisionId}
    (ok : requireUnrouted env revisionId = .ok ()) : recordedWeightBps env revisionId = 0 := by
  unfold requireUnrouted at ok
  split at ok
  · assumption
  · cases ok

theorem workerDeployment_ok {env : Environment} {revisionId : RevisionId} {worker : Worker}
    (ok : workerDeployment answers env revisionId = .ok worker) :
    worker.revisionId = revisionId := by
  unfold workerDeployment at ok
  split at ok
  · cases ok
  · obtain ⟨params, -, same⟩ := bind_ok ok
    cases same
    rfl

theorem push_keeps {loaded : Snapshot} {params : K8sParams} (parsed : params ∈ answers) :
    Keeps answers operation (some loaded) (push loaded params) :=
  .attempt ⟨loaded, rfl, params, parsed, rfl, rfl, rfl⟩ fun _ => rfl

theorem requireRouterUnrouted_keeps (params : K8sParams) (revisionId : RevisionId) :
    Keeps answers operation known (requireRouterUnrouted params revisionId) :=
  .andThen (.attempt trivial fun _ => rfl) fun _ => .lift _

theorem confirmWithin_keeps (worker : Worker) (probes : Nat) :
    Keeps answers operation known (confirmWithin worker probes) := by
  induction probes with
  | zero => exact .andThen (.attempt trivial fun _ => rfl) fun _ => .lift _
  | succ probes ih =>
      refine .andThen (.attempt trivial fun _ => rfl) fun status => ?_
      split
      · exact .done _
      · exact ih

theorem drainEnforced_follows (loaded : Snapshot) (revisionId : RevisionId)
    (probes retries : Nat) :
    Follows answers (.drainRevision revisionId retries) (some loaded)
      (drainEnforced answers policy loaded revisionId probes) := by
  refine .checks fun worker placed => ?_
  refine .checks fun _ unrouted => ?_
  refine .checks fun params parsed => ?_
  refine .andThen (push_keeps (paramsFromAnswers_ok parsed)) fun _ => ?_
  refine .andThen (requireRouterUnrouted_keeps params revisionId) fun _ => ?_
  refine .andThen (Program.Obeys.ask trivial fun _ => rfl) fun _ => ?_
  have own := workerDeployment_ok placed
  refine .scale ⟨⟨retries, by rw [own]⟩, loaded, rfl, ?_⟩ (confirmWithin_keeps worker probes).follows
  rw [own]
  exact requireUnrouted_ok unrouted

theorem stampReady_keeps (env : Environment) (revisionId : RevisionId) :
    Keeps answers operation known (stampReady env revisionId) := by
  unfold stampReady
  split
  · exact .attempt trivial fun _ => rfl
  · exact .done _

theorem applyManifest_keeps {loaded : Snapshot} {params : K8sParams} (parsed : params ∈ answers)
    (manifest : Manifest) :
    Keeps answers operation (some loaded) (applyManifest loaded params manifest) := by
  unfold applyManifest
  split
  · exact push_keeps parsed
  · exact .attempt trivial fun _ => rfl

theorem pruned_kind {params : K8sParams} {env : Environment} {ref : ObjectRef}
    (member : ref ∈ pruned params env) : ref.kind ≠ "ConfigMap" := by
  simp only [pruned, List.mem_append, List.mem_flatMap, List.mem_map] at member
  rcases member with (secret | ⟨revision, _, manifest, worker, rfl⟩) | ingress
  · split at secret
    · rw [List.mem_singleton.mp secret]
      simp [Sor.renderDevSecretsSecret, Sor.renderSecret]
    · cases secret
  · simp only [Sor.renderWorkerManifests, List.mem_cons, List.not_mem_nil, or_false] at worker
    rcases worker with rfl | rfl <;> simp [Sor.namespaced]
  · split at ingress
    · rw [List.mem_singleton.mp ingress]
      simp [Sor.renderIngress, Sor.namespaced]
    · cases ingress

theorem operation_follows (operation : Operation) :
    Follows answers operation none (operation.body answers policy) := by
  cases operation with
  | drainRevision revisionId probes =>
      refine .andThen (.attempt trivial fun _ => rfl) fun env => ?_
      refine .andThen (.lift _) fun _ => ?_
      refine .andThen (stampReady_keeps env revisionId) fun _ => ?_
      exact .load fun loaded => drainEnforced_follows loaded revisionId probes probes
  | applyTrafficSplit deploymentId =>
      refine .load fun loaded => ?_
      refine .andThen (.lift _) fun _ => ?_
      exact .checks fun params parsed => (push_keeps (paramsFromAnswers_ok parsed)).follows
  | reconcile manageNamespace =>
      refine .load fun loaded => .checks fun params parsed => ?_
      refine .andThen (.forM fun manifest _ =>
        applyManifest_keeps (paramsFromAnswers_ok parsed) manifest) fun _ => ?_
      refine Keeps.follows (.forM fun ref member => ?_)
      have may : Permits answers (.reconcile manageNamespace) (some loaded) (.delete ref) :=
        pruned_kind member
      exact .attempt may fun _ => rfl
  | verb engineVerb =>
      have may : Permits answers (.verb engineVerb) none (.runVerb engineVerb) := rfl
      exact Keeps.follows (.attempt may fun _ => rfl)

end Protocol

def sampleParams : K8sParams := ⟨"gtc-local", none, none, none, none, .devStore⟩

def samplePolicy : DrainPolicy := ⟨600, none⟩

/-- A call that goes well; the worker's Deployment is absent. -/
def untold : Outside := ⟨.done, none⟩

def turns (index count : Nat) : List OperationAction :=
  List.replicate count (.advance index untold)

end GreenticDeployer.K8s
