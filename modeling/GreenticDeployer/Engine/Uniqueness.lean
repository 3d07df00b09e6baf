import GreenticDeployer.Engine.Routing

/-!
# Uniqueness in the environment document

The keys that the verbs of the engine keep distinct. A rollback reinstalls a
stashed split, so that splits stay one per deployment rests on routing safety.
-/

set_option maxHeartbeats 200000

namespace GreenticDeployer.Engine

open Spec Lib

structure Unique (env : Environment) : Prop where
  revisions : (env.revisions.map (·.revisionId)).Nodup
  splits : (env.trafficSplits.map (·.deploymentId)).Nodup
  deployments : (env.bundles.map fun b => (b.bundleId, b.customerId)).Nodup
  providers : (env.messagingEndpoints.map fun e => (e.providerType, e.providerId)).Nodup
  links : ∀ endpoint ∈ env.messagingEndpoints, LinksSound endpoint

variable {serde : SerdeJson}

/-- Two deployments of one customer are never of one bundle. -/
def CustomersApart (env : Environment) : Prop :=
  (env.bundles.map fun b => (b.bundleId, b.customerId)).Nodup

theorem CustomersApart.edit {env after : Environment} (edit : Edit serde env after)
    (apart : CustomersApart env) : CustomersApart after := by
  cases edit with
  | revision edit =>
      cases edit with
      | keep => exact apart
      | stage => exact apart
      | advance found new bundles located sameId sameDeployment sameBundle hop keeps tracking =>
          rcases tracking with rfl | rfl
          · exact apart
          · rw [CustomersApart, untrack_map _ fun _ _ => rfl]
            exact apart
  | deploy deployment vacant => exact nodup_map_append apart vacant
  | patch bundles sameKeys =>
      have keys := congrArg (List.map Prod.snd) sameKeys
      simp only [List.map_map, Function.comp_def] at keys
      simp only [CustomersApart, keys]
      exact apart
  | undeploy deploymentId found located unrouted => exact nodup_map_remove located apart
  | _ => exact apart

theorem Unique.edit {env after : Environment} (edit : Edit serde env after)
    (routing : Routing serde env) (unique : Unique env) : Unique after := by
  have deployments := CustomersApart.edit edit unique.deployments
  obtain ⟨revisions, splits, -, providers, links⟩ := unique
  cases edit with
  | describe name hostConfig => exact ⟨revisions, splits, deployments, providers, links⟩
  | rebind packs extensions => exact ⟨revisions, splits, deployments, providers, links⟩
  | revision edit =>
      cases edit with
      | keep => exact ⟨revisions, splits, deployments, providers, links⟩
      | stage deployment revision named fresh deployed bundle staged =>
          have added := nodup_map_append (x := revision) revisions
            (fun r member => by rw [named]; exact fresh r member)
          exact ⟨added, splits, deployments, providers, links⟩
      | advance found new bundles located sameId sameDeployment sameBundle hop keeps tracking =>
          exact ⟨nodup_map_replace located sameId revisions, splits, deployments, providers, links⟩
  | openSplit deployment split deployed bundle owned ready weights unstashed vacant =>
      exact ⟨revisions, nodup_map_append splits vacant, deployments, providers, links⟩
  | replaceSplit deployment split token found deployed bundle owned ready weights stashed decodes
      located =>
      have same : split.deploymentId = found.hit.deploymentId := by
        have hit : found.hit.deploymentId = split.deploymentId := by
          simpa using (locate_eq_some located).2.1
        exact hit.symm
      exact ⟨revisions, nodup_map_replace located same splits, deployments, providers, links⟩
  | restoreSplit deploymentId snapshot restored token found located stashed decodes
      sameDeployment sameBundle sameEntries unstashed ready weights =>
      have stash := (routing.splits _ (Located.mem_hit located)).stash token snapshot stashed decodes
      have same : restored.deploymentId = found.hit.deploymentId := sameDeployment.trans stash.1
      exact ⟨revisions, nodup_map_replace located same splits, deployments, providers, links⟩
  | dropSplit deploymentId found located =>
      exact ⟨revisions, nodup_map_remove located splits, deployments, providers, links⟩
  | deploy deployment vacant => exact ⟨revisions, splits, deployments, providers, links⟩
  | patch bundles sameKeys => exact ⟨revisions, splits, deployments, providers, links⟩
  | undeploy deploymentId found located unrouted =>
      exact ⟨revisions.sublist (List.filter_sublist.map _), splits, deployments, providers, links⟩
  | addEndpoint endpoint vacant sound =>
      refine ⟨revisions, splits, deployments, nodup_map_append providers vacant, ?_⟩
      intro e member
      rcases List.mem_append.mp member with old | new
      · exact links e old
      · rw [List.mem_singleton.mp new]
        exact sound
  | editEndpoint id found endpoint located sameProvider sound =>
      refine ⟨revisions, splits, deployments,
        nodup_map_replace located sameProvider providers, ?_⟩
      intro e member
      rcases Located.mem_replace.mp member with rfl | other
      · exact sound (links _ (Located.mem_hit located))
      · exact links e (Located.mem_of_mem_remove located other)
  | dropEndpoint id found located =>
      exact ⟨revisions, splits, deployments, nodup_map_remove located providers,
        fun e member => links e (Located.mem_of_mem_remove located member)⟩

/-- The uniqueness invariants of every run of the engine from a fresh
environment. -/
theorem uniqueness (serde : SerdeJson) (ext : Externals) (envId : EnvId) (name : String)
    (hostConfig : EnvironmentHostConfig) (revocation : RevocationConfig)
    (retention : RetentionPolicy) (health : HealthStatus) (verbs : List Verb)
    (admits : (engine serde ext).Admits
      (freshEnvironment envId name hostConfig revocation retention health) verbs) :
    ∀ env ∈ (engine serde ext).states
        (freshEnvironment envId name hostConfig revocation retention health) verbs,
      (env.revisions.map (·.revisionId)).Nodup ∧
      (env.trafficSplits.map (·.deploymentId)).Nodup ∧
      (env.bundles.map fun b => (b.bundleId, b.customerId)).Nodup ∧
      (env.messagingEndpoints.map fun e => (e.providerType, e.providerId)).Nodup ∧
      ∀ endpoint ∈ env.messagingEndpoints, endpoint.linkedBundles.Nodup ∧
        ∀ welcome, endpoint.welcomeFlow = some welcome →
          welcome.bundleId ∈ endpoint.linkedBundles := by
  intro env visited
  have holds : Routing serde env ∧ Unique env := by
    refine (engine serde ext).invariant (fun env => Routing serde env ∧ Unique env) ?_ _ verbs
      admits ⟨.fresh .., ?_⟩ env visited
    · intro state verb _ both
      refine (persist_edits ext state verb).preserve (fun env => Routing serde env ∧ Unique env)
        ?_ both
      intro before after edit ⟨routing, unique⟩
      exact ⟨routing.edit edit, unique.edit edit routing⟩
    · constructor <;> simp [freshEnvironment]
  have unique := holds.2
  exact ⟨unique.revisions, unique.splits, unique.deployments, unique.providers, unique.links⟩

/-- Two customers of one bundle, an endpoint linked to it and greeting with it. -/
def linkedRun : List Verb :=
  [.addBundle demoBundle ⟨1⟩ 0 "policy.json",
    .addBundle { demoBundle with customerId := ⟨"acme"⟩ } ⟨2⟩ 1 "policy.json",
    .addMessagingEndpoint ⟨"bot", "slack", "Bot", [], none, "op"⟩ ⟨9⟩ firstKey 2
      fun _ => .error (.secretProvision "no sink"),
    .linkMessagingBundle ⟨9⟩ ⟨"demo"⟩ "op" secondKey 3,
    .setMessagingWelcomeFlow ⟨⟨9⟩, ⟨"demo"⟩, ⟨"pack"⟩, "hello", "op"⟩ ⟨"k3", by decide⟩ 4]

theorem uniqueness_of_linkedRun :
    ((((engine firstSplitJson noExternals).run localFresh linkedRun).messagingEndpoints.map
      fun e => (e.linkedBundles, e.welcomeFlow.map (·.bundleId))) = [([⟨"demo"⟩], some ⟨"demo"⟩)]) ∧
    ∀ env ∈ (engine firstSplitJson noExternals).states localFresh linkedRun,
      (env.revisions.map (·.revisionId)).Nodup ∧
      (env.trafficSplits.map (·.deploymentId)).Nodup ∧
      (env.bundles.map fun b => (b.bundleId, b.customerId)).Nodup ∧
      (env.messagingEndpoints.map fun e => (e.providerType, e.providerId)).Nodup ∧
      ∀ endpoint ∈ env.messagingEndpoints, endpoint.linkedBundles.Nodup ∧
        ∀ welcome, endpoint.welcomeFlow = some welcome →
          welcome.bundleId ∈ endpoint.linkedBundles := by
  refine ⟨by decide, ?_⟩
  exact uniqueness firstSplitJson noExternals _ _ _ _ _ _ linkedRun (by decide)

end GreenticDeployer.Engine
