import GreenticDeployer.K8s.Router

/-!
# What the router runs on

A push replaces the whole config map with what its operation loaded. The router
follows the store as long as no push undoes one of an environment loaded later.
-/

set_option maxHeartbeats 200000

namespace GreenticDeployer.K8s

open Spec Engine Lib
open Local (RuntimeConfig materializeRuntimeConfig)
open Sor (ObjectRef K8sParams)

section Runs

variable (serde : SerdeJson) (ext : Externals) (answers : Option K8sParams) (policy : DrainPolicy)

/-- No verb touches the bindings: the recorded answers are those of the whole run. -/
def KeepsAnswers (_ : Outside) (_ : World) (call : RouterCall) : Prop :=
  ∀ verb ∈ call.verb, verb.rebinds = false

instance (outside : Outside) (world : World) (call : RouterCall) :
    Decidable (KeepsAnswers outside world call) :=
  inferInstanceAs (Decidable (∀ verb ∈ call.verb, verb.rebinds = false))

/-- No push carries an environment loaded before a split change that a push has
carried already. -/
def InOrder (_ : Outside) (world : World) : RouterCall → Prop
  | .pushRuntimeConfig _ _ changes => ∀ newest ∈ world.covered, newest ≤ changes
  | _ => True

instance (outside : Outside) (world : World) :
    ∀ call : RouterCall, Decidable (InOrder outside world call)
  | .pushRuntimeConfig _ _ changes =>
    inferInstanceAs (Decidable (∀ newest ∈ world.covered, newest ≤ changes))
  | .loadEnv | .load | .stampDraining _ | .runVerb _ | .apply _ | .delete _ | .getConfigMap _
  | .sleep _ | .scaleToZero _ | .rolloutStatus _ => .isTrue trivial

/-- Split changes and pushes, in any order. -/
def pushes :=
  (operations serde ext answers policy).system fun pool => Interleaving.OnCalls KeepsAnswers pool

def orderedPushes := (operations serde ext answers policy).system fun pool action =>
  Interleaving.OnCalls KeepsAnswers pool action ∧ Interleaving.OnCalls InOrder pool action

instance (pool) (action) : Decidable ((pushes serde ext answers policy).allowed pool action) :=
  inferInstanceAs (Decidable (Interleaving.OnCalls KeepsAnswers pool action))

instance (pool) (action) :
    Decidable ((orderedPushes serde ext answers policy).allowed pool action) :=
  inferInstanceAs (Decidable (_ ∧ Interleaving.OnCalls InOrder pool action))

end Runs

/-- Nothing is in flight, and the latest split change has been pushed by an
operation that loaded the environment after it. -/
def Settled (pool : OperationPool) : Prop :=
  (∀ task ∈ pool.tasks, ¬ task.InFlight) ∧
    pool.shared.covered = some pool.shared.store.changes

instance (pool : OperationPool) : Decidable (Settled pool) :=
  inferInstanceAs (Decidable ((∀ task ∈ pool.tasks, ¬ task.InFlight) ∧ _))

/-- The live config map is the one rendered from the stored environment. -/
def RouterFollows (params : K8sParams) (world : World) : Prop :=
  world.configMaps (runtimeConfigMapRef params) = some (renderRuntimeConfigMap world.store.env)

instance (params : K8sParams) (world : World) : Decidable (RouterFollows params world) :=
  inferInstanceAs (Decidable (_ = _))

variable {serde : SerdeJson} {ext : Externals} {answers : Option K8sParams} {policy : DrainPolicy}

theorem render_persist (ext : Externals) {env : Environment} (routing : Routing serde env)
    {verb : Verb} (same : (persist serde ext env verb).trafficSplits = env.trafficSplits) :
    renderRuntimeConfigMap (persist serde ext env verb) = renderRuntimeConfigMap env := by
  have sameId := persist_environmentId serde ext env verb
  have projection : materializeRuntimeConfig (persist serde ext env verb) =
      materializeRuntimeConfig env := by
    cases moves : Local.movesSplits verb with
    | false => exact Local.materialize_persist ext routing moves
    | true =>
        have leaves : verb.leavesRevisions = true := by
          cases verb <;> first | rfl | cases moves
        exact Local.materialize_eq routing
          (.of_same sameId same (persist_revisions ext env verb leaves))
  simp only [renderRuntimeConfigMap, sameId, projection]

/-- The environment an operation loaded is no newer than the store's, and renders
the same where no split has changed since. -/
def StaysLoaded (_ : Operation) (known : Option Snapshot) (world : World) : Prop :=
  ∀ loaded ∈ known, loaded.changes ≤ world.store.changes ∧
    (loaded.changes = world.store.changes →
      renderRuntimeConfigMap loaded.env = renderRuntimeConfigMap world.store.env)

/-- Where the newest split change has been pushed, the live config map is the
rendered one. -/
structure Projected (serde : SerdeJson) (answers : Option K8sParams) (world : World) : Prop where
  routing : Routing serde world.store.env
  ahead : ∀ newest ∈ world.covered, newest ≤ world.store.changes
  live : ∀ params ∈ answers, world.covered = some world.store.changes → RouterFollows params world

/-- A save counts up, or renders the same as before. -/
theorem saved_cases (ext : Externals) {world : World} (routing : Routing serde world.store.env)
    (verb : Verb) :
    (world.saved (persist serde ext world.store.env verb)).store.changes =
        world.store.changes + 1 ∨
      ((world.saved (persist serde ext world.store.env verb)).store.changes =
          world.store.changes ∧
        renderRuntimeConfigMap (persist serde ext world.store.env verb) =
          renderRuntimeConfigMap world.store.env) := by
  by_cases same : (persist serde ext world.store.env verb).trafficSplits =
      world.store.env.trafficSplits
  · exact .inr ⟨if_pos same, render_persist ext routing same⟩
  · exact .inl (if_neg same)

theorem StaysLoaded.saved {operation : Operation} {known : Option Snapshot} {world : World}
    (stays : StaysLoaded operation known world) (routing : Routing serde world.store.env)
    (verb : Verb) :
    StaysLoaded operation known (world.saved (persist serde ext world.store.env verb)) := by
  intro loaded member
  obtain ⟨older, renders⟩ := stays loaded member
  rcases saved_cases ext routing verb with counted | ⟨same, unchanged⟩
  · rw [counted]
    exact ⟨by omega, fun newer => by omega⟩
  · rw [same]
    exact ⟨older, fun current => (renders current).trans unchanged.symm⟩

theorem Projected.saved {world : World} (projected : Projected serde answers world)
    (verb : Verb) :
    Projected serde answers (world.saved (persist serde ext world.store.env verb)) where
  routing := (persist_edits ext world.store.env verb).preserve (Routing serde)
    (fun _ _ => Routing.edit) projected.routing
  ahead := by
    intro newest member
    have before := projected.ahead newest member
    rcases saved_cases ext projected.routing verb with counted | ⟨same, -⟩
    · omega
    · omega
  live := by
    intro params parsed current
    rcases saved_cases ext projected.routing verb with counted | ⟨same, unchanged⟩
    · have before := projected.ahead _ (Option.mem_def.mpr current)
      omega
    · rw [same] at current
      exact (projected.live params parsed current).trans (congrArg some unchanged.symm)

theorem Projected.pushed {operation : Operation} {world : World}
    (projected : Projected serde answers world)
    {loaded : Snapshot} {params : K8sParams} (parsed : params ∈ answers)
    (stays : StaysLoaded operation (some loaded) world)
    (ordered : ∀ newest ∈ world.covered, newest ≤ loaded.changes) :
    Projected serde answers (world.pushed (runtimeConfigMapRef params)
      (renderRuntimeConfigMap loaded.env) loaded.changes) := by
  obtain ⟨older, renders⟩ := stays loaded rfl
  have covered : world.covered.elim loaded.changes (max loaded.changes) = loaded.changes := by
    cases pushed : world.covered with
    | none => rfl
    | some newest => exact max_eq_left (ordered newest pushed)
  refine ⟨projected.routing, ?_, ?_⟩
  · intro newest member
    simp only [World.pushed, covered, Option.mem_def, Option.some.injEq] at member
    exact member ▸ older
  · intro other recorded current
    have same : other = params := Option.some.inj (recorded.symm.trans parsed)
    simp only [World.pushed, covered, Option.some.injEq] at current
    rw [same]
    exact (Function.update_self ..).trans (congrArg some (renders current))

theorem Projected.deleted {world : World} (projected : Projected serde answers world)
    {ref : ObjectRef} (other : ref.kind ≠ "ConfigMap") :
    Projected serde answers
      { world with configMaps := Function.update world.configMaps ref none } := by
  refine ⟨projected.routing, projected.ahead, ?_⟩
  intro params parsed current
  have apart : runtimeConfigMapRef params ≠ ref := by
    rintro rfl
    exact other rfl
  exact (Function.update_of_ne apart _ _).trans (projected.live params parsed current)

theorem Projected.exec {operation : Operation} {known : Option Snapshot} {outside : Outside}
    {world : World} {call : RouterCall} (projected : Projected serde answers world)
    (may : Permits answers operation known call) (stays : StaysLoaded operation known world)
    (ordered : InOrder outside world call) :
    Projected serde answers (access serde ext outside world call).2 := by
  rcases access_cases serde ext outside world call with
    same | ⟨verb, -, saved⟩ | ⟨ref, map, changes, rfl, pushed⟩ | ⟨ref, rfl, deleted⟩ |
      ⟨worker, -, stopped⟩
  · rw [same]
    exact projected
  · rw [saved]
    exact projected.saved verb
  · obtain ⟨loaded, member, params, parsed, rfl, rfl, rfl⟩ := may
    rw [Option.mem_def.mp member] at stays
    rw [pushed]
    exact projected.pushed parsed stays ordered
  · rw [deleted]
    exact projected.deleted may
  · rw [stopped]
    exact ⟨projected.routing, projected.ahead, projected.live⟩

theorem StaysLoaded.exec {operation : Operation} {known : Option Snapshot} {outside : Outside}
    {world : World} {call : RouterCall} (stays : StaysLoaded operation known world)
    (routing : Routing serde world.store.env) :
    StaysLoaded operation known (access serde ext outside world call).2 := by
  rcases access_cases serde ext outside world call with
    same | ⟨verb, -, saved⟩ | ⟨ref, map, changes, -, pushed⟩ | ⟨ref, -, deleted⟩ |
      ⟨worker, -, stopped⟩
  · rw [same]
    exact stays
  · rw [saved]
    exact stays.saved routing verb
  · rw [pushed]
    exact stays
  · rw [deleted]
    exact stays
  · rw [stopped]
    exact stays

theorem StaysLoaded.learned {operation : Operation} {known : Option Snapshot} {outside : Outside}
    {world : World} {call : RouterCall} (stays : StaysLoaded operation known world)
    (routing : Routing serde world.store.env) :
    StaysLoaded operation (learn known call (access serde ext outside world call).1)
      (access serde ext outside world call).2 := by
  have learned := learn_cases serde ext known outside world call
  rcases learned with same | ⟨current, unchanged⟩ | stopped
  · rw [same]
    exact stays.exec routing
  · rw [current, unchanged]
    intro loaded member
    cases member
    exact ⟨Nat.le_refl _, fun _ => rfl⟩
  · rw [stopped]
    intro loaded member
    cases member

/-- However split changes and pushes interleave, in every state in which nothing is
in flight and the latest split change has been pushed by an operation that loaded
after it, the live config map is the rendered one, as long as no push undoes one
of an environment loaded after more split changes. -/
theorem router_follows_the_store (serde : SerdeJson) (ext : Externals) (params : K8sParams)
    (policy : DrainPolicy) (envId : EnvId) (name : String) (hostConfig : EnvironmentHostConfig)
    (revocation : RevocationConfig) (retention : RetentionPolicy) (health : HealthStatus)
    (built : List Verb) (reached : (engine serde ext).Admits
      (freshEnvironment envId name hostConfig revocation retention health) built)
    (configMaps : ObjectRef → Option ConfigMap) (actions : List OperationAction)
    (admits : (orderedPushes serde ext (some params) policy).Admits
      ⟨.start ((engine serde ext).run
        (freshEnvironment envId name hostConfig revocation retention health) built) configMaps,
        []⟩ actions) :
    ∀ pool ∈ (orderedPushes serde ext (some params) policy).states
      ⟨.start ((engine serde ext).run
        (freshEnvironment envId name hostConfig revocation retention health) built) configMaps,
        []⟩ actions,
      Settled pool → RouterFollows params pool.shared := by
  have routing : Routing serde ((engine serde ext).run
      (freshEnvironment envId name hostConfig revocation retention health) built) := by
    refine (engine serde ext).run_invariant (Routing serde) ?_ _ built reached (.fresh ..)
    intro state verb _ holds
    exact (persist_edits ext state verb).preserve (Routing serde) (fun _ _ => Routing.edit) holds
  have rules : (operations serde ext (some params) policy).Rules
      (fun pool action => Interleaving.OnCalls KeepsAnswers pool action ∧
        Interleaving.OnCalls InOrder pool action)
      (Permits (some params)) (fun _ _ _ => True) (Projected serde (some params)) StaysLoaded := by
    refine ⟨operation_follows, ?_, fun _ _ _ projected => projected, ?_, ?_, ?_⟩
    · intro operation world _ loaded known
      cases known
    · intro pool index outside task call next ordered found program sound
      have acting := sound.acting found program
      exact sound.inv.exec acting.1 acting.2 (ordered.2.call found program)
    · intro pool index outside task call next _ found program sound
      exact (sound.acting found program).2.learned sound.inv.routing
    · intro pool index outside task call next _ _ _ sound other _ _ stays
      exact stays.exec sound.inv.routing
  have fresh : Projected serde (some params) (.start ((engine serde ext).run
      (freshEnvironment envId name hostConfig revocation retention health) built) configMaps) :=
    ⟨routing, by simp [World.start], by simp [World.start]⟩
  intro pool visited settled
  have sound := (orderedPushes serde ext (some params) policy).invariant _
    (fun pool action may => (operations serde ext (some params) policy).sound_step rules pool
      action may) _ actions admits
    ((operations serde ext (some params) policy).sound_empty fresh) pool visited
  exact sound.inv.live params rfl settled.2

def stagesAnother (id : Nat) : Verb :=
  .stageRevision { demoRevision with revisionId := ⟨id⟩ } 4

/-- The demo deployment routed to its first revision, a second one ready and a
third one staged. -/
def builtThree : List Verb :=
  routedRun.take 4 ++
    [stagesAnother 8, .warmRevision ⟨⟨8⟩, .ok (), .staged⟩ 4, stagesAnother 9]

def moves : OperationAction :=
  .arrive (.verb (.setTrafficSplit ⟨⟨1⟩, [⟨⟨8⟩, 10000⟩], "op", none⟩ secondKey 5))

/-- The drain of the third revision is over before the split moves and is pushed. -/
def drainedFirst : List OperationAction :=
  [.arrive (.drainRevision ⟨9⟩ 0)] ++ turns 0 7 ++ [moves] ++ turns 1 1 ++
    [.arrive (.applyTrafficSplit ⟨1⟩)] ++ turns 2 2

/-- The drain loads, the split moves and is pushed, and the drain goes on. -/
def drainedAcross : List OperationAction :=
  [.arrive (.drainRevision ⟨9⟩ 0)] ++ turns 0 2 ++ [moves] ++ turns 1 1 ++
    [.arrive (.applyTrafficSplit ⟨1⟩)] ++ turns 2 2 ++ turns 0 5

def threeRevisions : World :=
  .start ((engine firstSplitJson noExternals).run localFresh builtThree) fun _ => none

theorem pushed_in_order_follows :
    let run := (orderedPushes firstSplitJson noExternals (some sampleParams) samplePolicy).run
      ⟨threeRevisions, []⟩ drainedFirst
    Settled run ∧ RouterFollows sampleParams run.shared := by
  have settled : Settled ((orderedPushes firstSplitJson noExternals (some sampleParams)
      samplePolicy).run ⟨threeRevisions, []⟩ drainedFirst) := by decide
  exact ⟨settled, router_follows_the_store firstSplitJson noExternals sampleParams samplePolicy
    _ _ _ _ _ _ builtThree (by decide) (fun _ => none) drainedFirst (by decide) _
    (System.run_mem_states _ _ _) settled⟩

/-- The drain puts the split back that it loaded: everything goes to the first
revision in the router, and to the second in the store. -/
theorem stale_push_stays :
    let run := (pushes firstSplitJson noExternals (some sampleParams) samplePolicy).run
      ⟨threeRevisions, []⟩ drainedAcross
    (pushes firstSplitJson noExternals (some sampleParams) samplePolicy).Admits
      ⟨threeRevisions, []⟩ drainedAcross ∧
    Settled run ∧ ¬ RouterFollows sampleParams run.shared := by
  refine ⟨by decide, by decide, by decide⟩

end GreenticDeployer.K8s
