import GreenticDeployer.Local.InStep
import GreenticDeployer.Engine.SplitRetry

/-!
# Retried verbs

A verb that saved and then failed to refresh is answered, when it is sent again,
without a second change: its refresh is all that is left to do.
-/

set_option maxHeartbeats 200000

namespace GreenticDeployer.Local.Projections

open Spec Engine Lib

variable {serde : SerdeJson} {ext : Externals}

/-- A call the engine answers without a change. -/
def Answered {ε τ : Type} (mutated : τ → Bool) (outcome : Outcome ε τ) : Prop :=
  ∃ result after, outcome = (.ok result, after) ∧ mutated result = false

theorem setTrafficSplit_again {env after : Environment} {payload : SetTrafficSplitPayload}
    {key : IdempotencyKey} {now later : DateTime} {result : TrafficSplitTransition}
    (ran : setTrafficSplit serde env payload key now = (.ok result, after)) :
    Answered (·.mutated) (setTrafficSplit serde
      (persist serde ext env (.setTrafficSplit payload key now)) payload key later) := by
  have stored : persist serde ext env (.setTrafficSplit payload key now) =
      if result.mutated then after else env := by
    simp only [persist, ran, persistMutated]
  rw [stored]
  obtain ⟨live, settled⟩ := setTrafficSplit_settled ran
  exact ⟨⟨live, none, none⟩, _, (settled.retry serde later rfl).1 fun _ => rfl, rfl⟩

theorem takeSplit_of_quiet {env : Environment} {id : DeploymentId} (quiet : Quiet env id) :
    takeSplit env id = (none, env) := by
  have absent : locate (fun s => decide (s.deploymentId = id)) env.trafficSplits = none :=
    locate_eq_none.mpr fun split member => decide_eq_false (quiet split member)
  simp only [takeSplit, absent]

theorem clearTrafficSplit_again {env after : Environment} {id : DeploymentId}
    {result : ClearTrafficOutcome}
    (distinct : (env.trafficSplits.map (·.deploymentId)).Nodup)
    (applied : clearTrafficSplit env id = (.ok result, after)) :
    Answered (·.mutated)
      (clearTrafficSplit (persist serde ext env (.clearTrafficSplit id)) id) := by
  have kept := (clearTrafficSplit_atomic env id).kept applied
  have stored : persist serde ext env (.clearTrafficSplit id) = after := kept.1.symm
  rw [stored]
  simp only [clearTrafficSplit] at applied
  split at applied
  · cases applied
  rename_i found located
  split at applied
  · cases applied
  rename_i archived
  cases applied
  have quiet : Quiet (takeSplit env id).2 id := by
    intro split member
    rw [(takeSplit_quiet env id distinct).1] at member
    exact of_decide_eq_true (List.mem_filter.mp member).2
  have bundles : (takeSplit env id).2.bundles = env.bundles := by rw [takeSplit_frame]
  have again : deploymentIndex (takeSplit env id).2 id = .ok found := by
    simp only [deploymentIndex, bundles] at located ⊢
    split at located <;> cases located
    rfl
  refine ⟨⟨id, none⟩, (takeSplit env id).2, ?_, rfl⟩
  simp only [clearTrafficSplit, again, archived, if_false, takeSplit_of_quiet quiet]

theorem beginRetire_answered {env : Environment} {id : DeploymentId}
    {found : Located BundleDeployment} (links : checkRetireLinks env id = .ok ())
    (located : locate (fun b => decide (b.deploymentId = id)) env.bundles = some found)
    (marked : found.hit.status = .archived) (quiet : Quiet env id) :
    Answered (·.mutated) (beginRetire env id) := by
  have same : Quiet
      { env with bundles := found.replace { found.hit with status := .archived } } id := quiet
  have answer : beginRetire env id = (.ok ⟨id, false, none⟩,
      { env with bundles := found.replace { found.hit with status := .archived } }) := by
    simp only [beginRetire, links, deploymentIndex, located, marked, takeSplit_of_quiet same]
    rfl
  exact ⟨_, _, answer, rfl⟩

theorem beginRetire_again {env after : Environment} {id : DeploymentId}
    {result : BeginRetireOutcome} (kept : WellKept serde env)
    (applied : beginRetire env id = (.ok result, after)) :
    Answered (·.mutated) (beginRetire (persist serde ext env (.beginRetire id)) id) := by
  have links : checkRetireLinks env id = .ok () := by
    simp only [beginRetire] at applied
    split at applied
    · cases applied
    · assumption
  have survives := checkRetireLinks_ok.mp links
  rcases survives with ⟨bundleId, bundle, survive⟩
  have retiring : Retiring serde id bundleId (withoutDeployment env id)
      (env.revisions.map fun r => (r.revisionId, r.deploymentId)) env :=
    ⟨kept, bundle, rfl, rfl, survive⟩
  have begun := retiring.begins ext
  have still := begun.2.1
  have linksAgain : checkRetireLinks (persist serde ext env (.beginRetire id)) id = .ok () :=
    checkRetireLinks_ok.mpr ⟨bundleId, still.bundle, still.rest ▸ still.survive⟩
  have archived : ∃ found, locate (fun b => decide (b.deploymentId = id))
      (persist serde ext env (.beginRetire id)).bundles = some found ∧
        found.hit.status = .archived := by
    have stored : persist serde ext env (.beginRetire id) =
        if result.mutated then after else env := by
      simp only [persist, applied, persistMutated]
    rw [stored]
    simp only [beginRetire, links, deploymentIndex] at applied
    cases located : locate (fun b => decide (b.deploymentId = id)) env.bundles with
    | none => simp [located] at applied
    | some found =>
        simp only [located] at applied
        cases applied
        cases moved : BeginRetireOutcome.mutated _ with
        | true =>
            rw [if_pos rfl, takeSplit_frame]
            have hit : found.hit.deploymentId = id :=
              of_decide_eq_true (locate_eq_some located).2.1
            have there := locate_replace { found.hit with status := .archived } located
              (by simpa using hit)
            rcases there with ⟨again, marked, same⟩
            exact ⟨again, marked, by rw [same]⟩
        | false =>
            refine ⟨found, located, ?_⟩
            have unmarked := (Bool.or_eq_false_iff.mp moved).1
            simpa using unmarked
  rcases archived with ⟨found, located, marked⟩
  exact beginRetire_answered linksAgain located marked begun.2.2

theorem reroute_accepted {ε τ : Type} {wrap : ε → StoreError} {mutated : τ → Bool}
    {apply : Environment → Outcome ε τ} (wraps : ∀ e, (wrap e).ofRefresh = false) (disk : Disk) :
    Program.Ends access (fun outcome _ => ∀ e, outcome = .error e → e.ofRefresh = true →
      ∃ result after, apply disk.env = (.ok result, after)) (reroute ext wrap mutated apply)
      disk := by
  apply load_then
  · intro e same failed
    cases same
    cases failed
  rcases applied : apply disk.env with ⟨result, after⟩
  cases result with
  | error refusal =>
      apply Program.Ends.throw
      intro e same failed
      cases same
      rw [wraps] at failed
      cases failed
  | ok value => exact .always fun _ _ _ _ _ => ⟨value, after, rfl⟩

theorem refreshRuntimeConfig_done (env : Environment) (disk : Disk) :
    ((refreshRuntimeConfig env).run.finish access disk fun _ => .done).1 = .ok ⟨⟩ := by
  simp only [refreshRuntimeConfig]
  split
  · cases present : disk.runtimeConfig.isSome with
    | true =>
        rw [deleteRuntimeConfig, observe, Program.finish_ask _ rfl]
        simp only [access, present, if_true]
        rfl
    | false =>
        rw [deleteRuntimeConfig, observe, Program.finish_ask _ rfl]
        simp only [access, present, Bool.false_eq_true, if_false]
        rfl
  · rw [saveRuntimeConfig, observe, Program.finish_ask _ rfl]
    split <;> rfl

/-- With nothing to save, a working refresh is the whole of the call. -/
theorem reroute_answered {ε τ : Type} {wrap : ε → StoreError} {mutated : τ → Bool}
    {apply : Environment → Outcome ε τ} {disk : Disk} (answered : Answered mutated (apply disk.env)) :
    ((reroute ext wrap mutated apply).run.finish access disk fun _ => .done).1 = .ok ⟨⟩ := by
  rcases answered with ⟨result, after, applied, still⟩
  rw [reroute, load, attempt, Program.finish_ask disk.env rfl]
  simp only [applied, persistIf, still, Bool.false_eq_true, if_false]
  exact refreshRuntimeConfig_done after disk

def sameArguments : Verb → Verb → Prop
  | .setTrafficSplit payload key _, .setTrafficSplit payload' key' _ =>
    payload' = payload ∧ key' = key
  | .clearTrafficSplit id, .clearTrafficSplit id' => id' = id
  | .beginRetire id, .beginRetire id' => id' = id
  | _, _ => False

theorem VerbEnd.behind_env {disk next : Disk} {verb : Verb} {e : StoreError}
    (ended : VerbEnd serde ext disk verb (.error e) next) (failed : e.ofRefresh = true) :
    next.env = stored serde ext disk verb := by
  cases ended with
  | refused e own =>
      rw [failed] at own
      cases own
  | saved outcome still unlinked owes own => rfl
  | behind e failed after env => exact env
  | unsynced after env rest => cases failed

theorem retry_succeeds {disk : Disk} {call : VerbCall} {retry : Verb} {e : StoreError}
    (kept : Kept serde disk.env) (fresh : call.verb.mintsFresh disk.env = true)
    (refused : (outcome serde ext disk call).1 = .error e) (failed : e.ofRefresh = true)
    (same : sameArguments call.verb retry) :
    (outcome serde ext (outcome serde ext disk call).2 ⟨retry, fun _ => .done⟩).1 = .ok ⟨⟩ := by
  have ended := outcome_ends ext kept fresh
  rw [refused] at ended
  have left := ended.behind_env failed
  rcases call with ⟨verb, turns⟩
  cases verb with
  | setTrafficSplit payload key now =>
      cases retry with
      | setTrafficSplit payload' key' later =>
          rcases same with ⟨rfl, rfl⟩
          have accepted := (reroute_accepted (fun _ => rfl) disk).finish turns e refused failed
          rcases accepted with ⟨result, after, applied⟩
          apply reroute_answered
          rw [left]
          exact setTrafficSplit_again applied
      | _ => cases same
  | clearTrafficSplit id =>
      cases retry with
      | clearTrafficSplit id' =>
          cases same
          have accepted := (reroute_accepted (fun _ => rfl) disk).finish turns e refused failed
          rcases accepted with ⟨result, after, applied⟩
          apply reroute_answered
          rw [left]
          exact clearTrafficSplit_again kept.well.unique.splits applied
      | _ => cases same
  | beginRetire id =>
      cases retry with
      | beginRetire id' =>
          cases same
          have accepted := (reroute_accepted (fun _ => rfl) disk).finish turns e refused failed
          rcases accepted with ⟨result, after, applied⟩
          apply reroute_answered
          rw [left]
          exact beginRetire_again kept.well applied
      | _ => cases same
  | _ => cases same

def freshDisk (env : Environment) : Disk := ⟨env, none, ∅, none⟩

theorem InStep.fresh (envId : EnvId) (name : String) (hostConfig : EnvironmentHostConfig)
    (revocation : RevocationConfig) (retention : RetentionPolicy) (health : HealthStatus) :
    InStep (freshDisk (freshEnvironment envId name hostConfig revocation retention health)) where
  runtimeConfig := rfl
  messaging := ⟨fun _ => rfl, rfl⟩

theorem Kept.fresh (envId : EnvId) (name : String) (hostConfig : EnvironmentHostConfig)
    (revocation : RevocationConfig) (retention : RetentionPolicy) (health : HealthStatus) :
    Kept serde (freshEnvironment envId name hostConfig revocation retention health) where
  well := .fresh ..
  endpoints := List.nodup_nil

/-- The runs in which no refresh has failed. -/
def steadyStore (serde : SerdeJson) (ext : Externals) : System Disk VerbCall :=
  (localStore serde ext).restrict fun disk call => refreshFailed serde ext disk call = false

structure Restores (serde : SerdeJson) (ext : Externals) (disk : Disk) (call : VerbCall) :
    Prop where
  config : refreshesConfig call.verb = true → (outcome serde ext disk call).1 = .ok ⟨⟩ →
    (outcome serde ext disk call).2.runtimeConfig =
      runtimeConfigOf (outcome serde ext disk call).2.env
  messaging : call.verb.relinks = true → (outcome serde ext disk call).1 = .ok ⟨⟩ →
    MessagingInStep (outcome serde ext disk call).2.env (outcome serde ext disk call).2

theorem Kept.restores {disk : Disk} {call : VerbCall} (kept : Kept serde disk.env)
    (fresh : call.verb.mintsFresh disk.env = true) : Restores serde ext disk call := by
  have ended := outcome_ends ext kept fresh
  constructor
  · intro owes succeeded
    rw [succeeded] at ended
    exact ended.restores_config owes
  · intro relinks succeeded
    rw [succeeded] at ended
    exact ended.restores_messaging relinks

theorem sameArguments_fresh {verb retry : Verb} (env : Environment)
    (same : sameArguments verb retry) : retry.mintsFresh env = true := by
  cases retry <;> first
    | rfl
    | cases verb <;> cases same

/-- In every run from a fresh environment in which no refresh has failed, both
projections are those of the saved environment after every verb. After a run with
any failures, a successful verb of a group restores its projection, and a call
whose refresh failed succeeds, and so restores it, when it is sent again. -/
theorem projections_follow_environment (serde : SerdeJson) (ext : Externals) (envId : EnvId)
    (name : String) (hostConfig : EnvironmentHostConfig) (revocation : RevocationConfig)
    (retention : RetentionPolicy) (health : HealthStatus) :
    let fresh := freshDisk (freshEnvironment envId name hostConfig revocation retention health)
    (∀ calls, (steadyStore serde ext).Admits fresh calls →
      ∀ disk ∈ (steadyStore serde ext).states fresh calls,
        disk.runtimeConfig = runtimeConfigOf disk.env ∧ MessagingInStep disk.env disk) ∧
    ∀ calls, (localStore serde ext).Admits fresh calls →
      let disk := (localStore serde ext).run fresh calls
      ∀ call : VerbCall, call.verb.mintsFresh disk.env = true →
        Restores serde ext disk call ∧
        ∀ e, (outcome serde ext disk call).1 = .error e → e.ofRefresh = true →
          ∀ retry, sameArguments call.verb retry →
            let again : VerbCall := ⟨retry, fun _ => .done⟩
            (outcome serde ext (outcome serde ext disk call).2 again).1 = .ok ⟨⟩ ∧
              Restores serde ext (outcome serde ext disk call).2 again := by
  intro fresh
  have kept : Kept serde fresh.env := .fresh ..
  constructor
  · intro calls admits disk visited
    have holds := (steadyStore serde ext).invariant
      (fun disk => Kept serde disk.env ∧ InStep disk) ?_ fresh calls admits
      ⟨kept, .fresh ..⟩ disk visited
    · exact ⟨holds.2.runtimeConfig, holds.2.messaging⟩
    · intro state call allowed both
      exact ⟨both.1.step allowed.1, both.2.step both.1 allowed.1 allowed.2⟩
  · intro calls admits disk call minted
    have reached : Kept serde disk.env :=
      (localStore serde ext).run_invariant (fun disk => Kept serde disk.env)
        (fun state call allowed kept => kept.step allowed) fresh calls admits kept
    refine ⟨reached.restores minted, ?_⟩
    intro e refused failed retry same
    refine ⟨retry_succeeds reached minted refused failed same, ?_⟩
    have next : Kept serde (outcome serde ext disk call).2.env := reached.step minted
    exact next.restores (sameArguments_fresh _ same)

/-- A red gate, a split and an endpoint, every call working. -/
def steadyRun : List VerbCall :=
  ([.addBundle demoBundle ⟨1⟩ 0 "policy.json", .stageRevision demoRevision 1,
    .warmRevision ⟨⟨7⟩, .ok (), .staged⟩ 2,
    .setTrafficSplit ⟨⟨1⟩, [⟨⟨7⟩, 10000⟩], "op", none⟩ firstKey 3,
    .stageRevision { demoRevision with revisionId := ⟨8⟩ } 4,
    .warmRevision ⟨⟨8⟩, .error ⟨[], "red"⟩, .staged⟩ 5,
    .addMessagingEndpoint ⟨"bot", "slack", "Bot", [], none, "op"⟩ ⟨9⟩ firstKey 6
      fun _ => .error (.secretProvision "no sink")] : List Verb).map
    fun verb => ⟨verb, fun _ => .done⟩

/-- The split of that run, its refresh failing once the environment is saved. -/
def unrefreshedSplit : VerbCall where
  verb := .setTrafficSplit ⟨⟨1⟩, [⟨⟨7⟩, 10000⟩], "op", none⟩ firstKey 3
  turns := fun n => if n < 4 then .done else .failed false

instance (disk : Disk) (call : VerbCall) :
    Decidable ((steadyStore serde ext).allowed disk call) :=
  inferInstanceAs (Decidable (call.verb.mintsFresh disk.env = true ∧
    refreshFailed serde ext disk call = false))

instance (disk : Disk) (call : VerbCall) :
    Decidable ((localStore serde ext).allowed disk call) :=
  inferInstanceAs (Decidable (call.verb.mintsFresh disk.env = true))

/-- Both projections stand at the end of the steady run; a split whose refresh
failed is there again once it is sent again. -/
theorem projections_follow_steadyRun :
    (((steadyStore firstSplitJson noExternals).run (freshDisk localFresh)
        steadyRun).runtimeConfig.isSome = true ∧
      ∀ disk ∈ (steadyStore firstSplitJson noExternals).states (freshDisk localFresh) steadyRun,
        disk.runtimeConfig = runtimeConfigOf disk.env ∧ MessagingInStep disk.env disk) ∧
    let disk := (localStore firstSplitJson noExternals).run (freshDisk localFresh)
      (steadyRun.take 3)
    let left := (outcome firstSplitJson noExternals disk unrefreshedSplit).2
    let again : VerbCall := ⟨.setTrafficSplit ⟨⟨1⟩, [⟨⟨7⟩, 10000⟩], "op", none⟩ firstKey 9,
      fun _ => .done⟩
    left.runtimeConfig = none ∧
      (outcome firstSplitJson noExternals left again).1 = .ok ⟨⟩ ∧
      (outcome firstSplitJson noExternals left again).2.runtimeConfig =
        runtimeConfigOf (outcome firstSplitJson noExternals left again).2.env := by
  have follows := projections_follow_environment firstSplitJson noExternals ⟨"local"⟩ "local"
    ⟨⟨"local"⟩, none, none, none, none, none, none⟩ ⟨false, none⟩ ⟨none, none⟩
    ⟨.unknown, none, none⟩
  refine ⟨⟨by decide, follows.1 steadyRun (by decide)⟩, by decide, ?_⟩
  have retried := (follows.2 (steadyRun.take 3) (by decide) unrefreshedSplit
    (by decide)).2 (.committedAfterSave (.io .runtimeConfig)) (by decide) rfl
    (.setTrafficSplit ⟨⟨1⟩, [⟨⟨7⟩, 10000⟩], "op", none⟩ firstKey 9) ⟨rfl, rfl⟩
  exact ⟨retried.1, retried.2.config rfl retried.1⟩

end GreenticDeployer.Local.Projections
