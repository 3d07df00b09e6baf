import GreenticDeployer.Engine.Departed
import GreenticDeployer.K8s.Router

/-!
# What a drain stops

A drain asks once whether its revision is routed, and the worker stops a window
later. A revision the drain found past ready is not routed again. One it found
before ready is only as unrouted as the verbs of the meantime leave it.
-/

set_option maxHeartbeats 200000

namespace GreenticDeployer.K8s

open Spec Engine Lib
open Local (Turn)
open Sor (ObjectRef Manifest K8sParams)
open CloudRun (recordedWeightBps recordedWeightBps_eq_zero)

theorem weightless_iff {env : Environment} {id : RevisionId} :
    Weightless env id ↔ recordedWeightBps env id = 0 := recordedWeightBps_eq_zero.symm

section Runs

variable (serde : SerdeJson) (ext : Externals) (answers : Option K8sParams) (policy : DrainPolicy)

abbrev OperationTask := Task Operation RouterCall RouterCall.Reply (Option Snapshot)
  (Except RouterError Unit)

/-- The revision of a drain between its check and its stop, where the environment
it checked had the revision staged, warming or ready. -/
def awaited (task : OperationTask) : Option RevisionId :=
  match task.tag, task.known with
  | .drainRevision id _, some loaded => if isDeparted loaded.env id then none else some id
  | _, _ => none

/-- The verbs run are those on revisions and their splits. -/
def Driven (_ : Outside) (_ : World) (call : RouterCall) : Prop :=
  ∀ verb ∈ call.verb, verb.drivesRevisions = true

instance (outside : Outside) (world : World) (call : RouterCall) :
    Decidable (Driven outside world call) :=
  inferInstanceAs (Decidable (∀ verb ∈ call.verb, verb.drivesRevisions = true))

/-- No verb gives weight to what a drain in flight is about to stop. -/
def SparesAwaited (tasks : List OperationTask) (_ : Outside) (world : World) (call : RouterCall) :
    Prop :=
  ∀ verb ∈ call.verb, ∀ task ∈ tasks, task.InFlight → ∀ id ∈ awaited task,
    ¬ verb.Routes serde world.store.env id

instance (tasks : List OperationTask) (outside : Outside) (world : World) (call : RouterCall) :
    Decidable (SparesAwaited serde tasks outside world call) :=
  inferInstanceAs (Decidable (∀ verb ∈ call.verb, ∀ task ∈ tasks, task.InFlight →
    ∀ id ∈ awaited task, ¬ verb.Routes serde world.store.env id))

/-- Drains, pushes and the verbs of other operators, in any order. -/
def drains :=
  (operations serde ext answers policy).system fun pool => Interleaving.OnCalls Driven pool

def sparingDrains := (operations serde ext answers policy).system fun pool action =>
  Interleaving.OnCalls Driven pool action ∧
    Interleaving.OnCalls (SparesAwaited serde pool.tasks) pool action

instance (pool) (action) : Decidable ((drains serde ext answers policy).allowed pool action) :=
  inferInstanceAs (Decidable (Interleaving.OnCalls Driven pool action))

instance (pool) (action) :
    Decidable ((sparingDrains serde ext answers policy).allowed pool action) :=
  inferInstanceAs (Decidable (_ ∧ Interleaving.OnCalls (SparesAwaited serde _) pool action))

end Runs

/-- The revision of a drain, unrouted in the environment it loaded, is unrouted in
the store, and departed there if it was departed. -/
def StaysCut (operation : Operation) (known : Option Snapshot) (world : World) : Prop :=
  ∀ id probes, operation = .drainRevision id probes → ∀ loaded ∈ known,
    Weightless loaded.env id → Weightless world.store.env id ∧
      (isDeparted loaded.env id = true → isDeparted world.store.env id = true)

/-- Every worker was stopped at no weight. -/
def StopsUnrouted (world : World) : Prop := ∀ stop ∈ world.stops, stop.2 = 0

variable {serde : SerdeJson} {ext : Externals} {answers : Option K8sParams} {policy : DrainPolicy}

theorem StaysCut.of_same {operation : Operation} {known : Option Snapshot} {world after : World}
    (cut : StaysCut operation known world) (same : after.store.env = world.store.env) :
    StaysCut operation known after := by
  intro id probes drains loaded member weightless
  rw [same]
  exact cut id probes drains loaded member weightless

theorem StaysCut.verb {task : OperationTask} {world : World} {verb : Verb}
    (cut : StaysCut task.tag task.known world) (drives : verb.drivesRevisions = true)
    (spares : ∀ id ∈ awaited task, ¬ verb.Routes serde world.store.env id) :
    StaysCut task.tag task.known (world.saved (persist serde ext world.store.env verb)) := by
  intro id probes drains loaded member weightless
  obtain ⟨unrouted, stays⟩ := cut id probes drains loaded member weightless
  have spared : ¬ verb.Routes serde world.store.env id := by
    by_cases past : isDeparted loaded.env id = true
    · exact not_routes_departed (stays past)
    · apply spares id
      simp [awaited, drains, Option.mem_def.mp member, past]
  exact ⟨weightless_persist ext drives unrouted spared,
    fun past => departed_persist ext drives (stays past)⟩

theorem StaysCut.exec {tasks : List OperationTask} {outside : Outside} {world : World}
    {call : RouterCall} (driven : Driven outside world call)
    (spares : SparesAwaited serde tasks outside world call) {task : OperationTask}
    (member : task ∈ tasks) (inFlight : task.InFlight)
    (cut : StaysCut task.tag task.known world) :
    StaysCut task.tag task.known (access serde ext outside world call).2 := by
  rcases access_cases serde ext outside world call with
    same | ⟨verb, runs, saved⟩ | ⟨ref, map, changes, -, pushed⟩ | ⟨ref, -, deleted⟩ |
      ⟨worker, -, stopped⟩
  · rw [same]
    exact cut
  · rw [saved]
    exact cut.verb (driven verb runs) (spares verb runs task member inFlight)
  · rw [pushed]
    exact cut.of_same rfl
  · rw [deleted]
    exact cut.of_same rfl
  · rw [stopped]
    exact cut.of_same rfl

theorem StaysCut.learned {tasks : List OperationTask} {outside : Outside} {world : World}
    {call : RouterCall} (driven : Driven outside world call)
    (spares : SparesAwaited serde tasks outside world call) {task : OperationTask}
    (member : task ∈ tasks) (inFlight : task.InFlight)
    (cut : StaysCut task.tag task.known world) :
    StaysCut task.tag (learn task.known call (access serde ext outside world call).1)
      (access serde ext outside world call).2 := by
  have learned := learn_cases serde ext task.known outside world call
  rcases learned with same | ⟨loaded, unchanged⟩ | stopped
  · rw [same]
    exact cut.exec driven spares member inFlight
  · rw [loaded, unchanged]
    intro id probes _ snapshot known weightless
    cases known
    exact ⟨weightless, fun past => past⟩
  · rw [stopped]
    intro id probes _ snapshot known
    cases known

theorem stopsUnrouted_exec {operation : Operation} {known : Option Snapshot} {outside : Outside}
    {world : World} {call : RouterCall} (unrouted : StopsUnrouted world)
    (may : Permits answers operation known call) (cut : StaysCut operation known world) :
    StopsUnrouted (access serde ext outside world call).2 := by
  rcases access_cases serde ext outside world call with
    same | ⟨verb, -, saved⟩ | ⟨ref, map, changes, -, pushed⟩ | ⟨ref, -, deleted⟩ |
      ⟨worker, rfl, stopped⟩
  · rw [same]
    exact unrouted
  · rw [saved]
    exact unrouted
  · rw [pushed]
    exact unrouted
  · rw [deleted]
    exact unrouted
  · obtain ⟨⟨probes, drains⟩, loaded, member, weight⟩ := may
    have weightless := (cut _ probes drains loaded member (weightless_iff.mpr weight)).1
    rw [stopped]
    intro stop recorded
    rcases List.mem_append.mp recorded with before | last
    · exact unrouted stop before
    · rw [List.mem_singleton.mp last]
      exact weightless_iff.mp weightless

/-- However drains, pushes and the verbs of other operators interleave, a drain
stops its worker at no recorded weight, as long as no verb gives weight to a
revision that a drain found staged, warming or ready and has yet to stop. -/
theorem drains_stop_the_unrouted (serde : SerdeJson) (ext : Externals)
    (answers : Option K8sParams) (policy : DrainPolicy) (env : Environment)
    (configMaps : ObjectRef → Option ConfigMap) (actions : List OperationAction)
    (admits : (sparingDrains serde ext answers policy).Admits
      ⟨.start env configMaps, []⟩ actions) :
    ∀ stop ∈ ((sparingDrains serde ext answers policy).run
      ⟨.start env configMaps, []⟩ actions).shared.stops, stop.2 = 0 := by
  have rules : (operations serde ext answers policy).Rules
      (fun pool action => Interleaving.OnCalls Driven pool action ∧
        Interleaving.OnCalls (SparesAwaited serde pool.tasks) pool action)
      (Permits answers) (fun _ _ _ => True) StopsUnrouted StaysCut := by
    refine ⟨operation_follows, ?_, fun _ _ _ unrouted => unrouted, ?_, ?_, ?_⟩
    · intro operation world _ id probes _ loaded known
      cases known
    · intro pool index outside task call next _ found program sound
      have acting := sound.acting found program
      exact stopsUnrouted_exec sound.inv acting.1 acting.2
    · intro pool index outside task call next careful found program sound
      exact (sound.acting found program).2.learned (careful.1.call found program)
        (careful.2.call found program) (List.mem_of_getElem? found) ⟨call, next, program⟩
    · intro pool index outside task call next careful found program sound other member inFlight cut
      exact cut.exec (careful.1.call found program) (careful.2.call found program) member inFlight
  have fresh : StopsUnrouted (.start env configMaps) := by
    intro stop recorded
    cases recorded
  exact ((operations serde ext answers policy).sound_run rules _ actions admits
    ((operations serde ext answers policy).sound_empty fresh)).inv

def stagedOnly : Environment := (stageRevision deployedOnly demoRevision 1).2

def beforehand : World := .start stagedOnly fun _ => none

def warmsAndRoutes : List OperationAction :=
  [.arrive (.verb (.warmRevision ⟨⟨7⟩, .ok (), .staged⟩ 2)),
    .arrive (.verb (.setTrafficSplit ⟨⟨1⟩, [⟨⟨7⟩, 10000⟩], "op", none⟩ firstKey 3))]

/-- The drain loads twice, then the others warm and route the revision. -/
def routedMeanwhile : List OperationAction :=
  [.arrive (.drainRevision ⟨7⟩ 0)] ++ turns 0 2 ++ warmsAndRoutes ++ turns 1 1 ++ turns 2 1 ++
    turns 0 5

/-- The same, drained before the others begin. -/
def routedAfterwards : List OperationAction :=
  [.arrive (.drainRevision ⟨7⟩ 0)] ++ turns 0 7 ++ warmsAndRoutes ++ turns 1 1 ++ turns 2 1

theorem drained_before_it_is_routed :
    let run := (sparingDrains firstSplitJson noExternals (some sampleParams) samplePolicy).run
      ⟨beforehand, []⟩ routedAfterwards
    run.shared.stops = [(⟨7⟩, 0)] ∧ ∀ stop ∈ run.shared.stops, stop.2 = 0 :=
  ⟨by decide, drains_stop_the_unrouted firstSplitJson noExternals (some sampleParams)
    samplePolicy stagedOnly (fun _ => none) routedAfterwards (by decide)⟩

/-- The drain passes its check on the staged revision; by the stop, the recorded
split gives it everything. -/
theorem drain_stops_the_routed :
    (drains firstSplitJson noExternals (some sampleParams) samplePolicy).Admits
      ⟨beforehand, []⟩ routedMeanwhile ∧
    ¬ ∀ stop ∈ ((drains firstSplitJson noExternals (some sampleParams) samplePolicy).run
      ⟨beforehand, []⟩ routedMeanwhile).shared.stops, stop.2 = 0 := by
  refine ⟨by decide, by decide⟩

end GreenticDeployer.K8s
