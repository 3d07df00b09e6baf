import GreenticDeployer.Engine.Edits

/-!
# Routing safety

Every live split routes to revisions of its own deployment that are ready or
draining. The stash behind a split is part of the invariant: a rollback may
reinstall it after any number of drains and archives.
-/

set_option maxHeartbeats 200000

namespace GreenticDeployer.Engine

open Spec Lib

def deploymentBundle (env : Environment) (id : DeploymentId) : Option BundleId :=
  (env.bundles.find? fun b => b.deploymentId = id).map (·.bundleId)

variable {serde : SerdeJson}

/-- A split that may serve, with a stash that may come back. -/
structure SplitSound (serde : SerdeJson) (env : Environment) (split : TrafficSplit) :
    Prop where
  deployed : deploymentBundle env split.deploymentId = some split.bundleId
  routed : ∀ entry ∈ split.entries, ∃ revision,
    revisionOf env entry.revisionId = some revision ∧
      revision.deploymentId = split.deploymentId ∧ routable revision.lifecycle = true
  weights : WeightsValid split
  stash : ∀ token snapshot, split.previousSplitRef = some token →
    decodeSplit serde token = some snapshot →
    snapshot.deploymentId = split.deploymentId ∧ snapshot.bundleId = split.bundleId ∧
      AllOwned env split.deploymentId snapshot.entries

structure Routing (serde : SerdeJson) (env : Environment) : Prop where
  owned : ∀ revision ∈ env.revisions,
    deploymentBundle env revision.deploymentId = some revision.bundleId
  splits : ∀ split ∈ env.trafficSplits, SplitSound serde env split

/-- A change of deployments and revisions that a split does not notice. -/
theorem SplitSound.mono {env after : Environment} {split : TrafficSplit}
    (sound : SplitSound serde env split)
    (bundles : ∀ bundle, deploymentBundle env split.deploymentId = some bundle →
      deploymentBundle after split.deploymentId = some bundle)
    (revisions : ∀ id revision, revisionOf env id = some revision →
      revision.deploymentId = split.deploymentId → ∃ revision', revisionOf after id = some revision' ∧
        revision'.deploymentId = split.deploymentId ∧
        ((∃ entry ∈ split.entries, entry.revisionId = id) → routable revision.lifecycle = true →
          routable revision'.lifecycle = true)) :
    SplitSound serde after split where
  deployed := bundles _ sound.deployed
  routed := by
    intro entry member
    obtain ⟨revision, present, own, live⟩ := sound.routed entry member
    obtain ⟨revision', present', own', keeps⟩ := revisions _ _ present own
    exact ⟨revision', present', own', keeps ⟨entry, member, rfl⟩ live⟩
  weights := sound.weights
  stash := by
    intro token snapshot stashed decodes
    obtain ⟨sameDeployment, sameBundle, owned⟩ := sound.stash token snapshot stashed decodes
    refine ⟨sameDeployment, sameBundle, ?_⟩
    intro entry member
    obtain ⟨revision, present, own⟩ := owned entry member
    obtain ⟨revision', present', own', -⟩ := revisions _ _ present own
    exact ⟨revision', present', own'⟩

theorem SplitSound.of_same {env after : Environment} {split : TrafficSplit}
    (sound : SplitSound serde env split) (bundles : after.bundles = env.bundles)
    (revisions : after.revisions = env.revisions) : SplitSound serde after split := by
  apply sound.mono
  · intro bundle present
    simpa only [deploymentBundle, bundles] using present
  · intro id revision present own
    exact ⟨revision, by simpa only [revisionOf, revisions] using present, own, fun _ live => live⟩

theorem deploymentBundle_of_keys {env after : Environment}
    (sameKeys : after.bundles.map (fun b => (b.deploymentId, b.bundleId)) =
      env.bundles.map fun b => (b.deploymentId, b.bundleId)) (id : DeploymentId) :
    deploymentBundle after id = deploymentBundle env id := by
  have keyed : ∀ bundles : List BundleDeployment,
      (bundles.find? fun b => b.deploymentId = id).map (·.bundleId) =
        ((bundles.map fun b => (b.deploymentId, b.bundleId)).find? fun k => k.1 = id).map
          Prod.snd := by
    intro bundles
    rw [List.find?_map, Option.map_map]
    rfl
  simp only [deploymentBundle, keyed, sameKeys]

theorem deploymentBundle_append {env : Environment} {id : DeploymentId} {bundle : BundleId}
    (deployment : BundleDeployment) (present : deploymentBundle env id = some bundle) :
    deploymentBundle { env with bundles := env.bundles ++ [deployment] } id = some bundle := by
  simp only [deploymentBundle, Option.map_eq_some_iff] at present ⊢
  obtain ⟨b, found, rfl⟩ := present
  exact ⟨b, by simp [List.find?_append, found], rfl⟩

theorem untrack_map {α : Type} (f : BundleDeployment → α)
    (blind : ∀ b revisions, f { b with currentRevisions := revisions } = f b)
    (deploymentId : DeploymentId) (id : RevisionId) (bundles : List BundleDeployment) :
    (untrack deploymentId id bundles).map f = bundles.map f := by
  rw [untrack, List.map_map]
  apply List.map_congr_left
  intro b _
  rw [Function.comp]
  split
  · exact blind b _
  · rfl

theorem untrack_keys (deploymentId : DeploymentId) (id : RevisionId)
    (bundles : List BundleDeployment) :
    (untrack deploymentId id bundles).map (fun b => (b.deploymentId, b.bundleId)) =
      bundles.map fun b => (b.deploymentId, b.bundleId) :=
  untrack_map _ (fun _ _ => rfl) deploymentId id bundles

theorem revisionOf_append {env : Environment} {id : RevisionId} {revision : Revision}
    (staged : Revision) (present : revisionOf env id = some revision) :
    revisionOf { env with revisions := env.revisions ++ [staged] } id = some revision := by
  simp only [revisionOf] at present ⊢
  simp [List.find?_append, present]

theorem activeRefs_ne_nil {env : Environment} {id : RevisionId} {split : TrafficSplit}
    (member : split ∈ env.trafficSplits)
    (routes : ∃ entry ∈ split.entries, entry.revisionId = id) : activeRefs env id ≠ [] := by
  obtain ⟨entry, inside, same⟩ := routes
  intro none_
  have absent := List.flatMap_eq_nil_iff.mp none_ split member
  simp only [List.map_eq_nil_iff, List.filter_eq_nil_iff] at absent
  exact absent entry inside (by simpa using same)

theorem Routing.revisionEdit {id : RevisionId} {env after : Environment}
    (routing : Routing serde env) (edit : RevisionEdit id env after) : Routing serde after := by
  cases edit with
  | keep => exact routing
  | stage deployment revision named fresh deployed bundle staged =>
      constructor
      · intro r member
        rcases List.mem_append.mp member with old | new
        · exact routing.owned r old
        · rw [List.mem_singleton.mp new]
          simp only [deploymentBundle, deployed, bundle, Option.map_some]
      · intro split member
        apply (routing.splits split member).mono
        · exact fun _ present => present
        · intro other r present own
          exact ⟨r, revisionOf_append revision present, own, fun _ live => live⟩
  | advance found new bundles located sameId sameDeployment sameBundle hop keeps tracking =>
      have hitId : found.hit.revisionId = id := by simpa using (locate_eq_some located).2.1
      have sameKeys : bundles.map (fun b => (b.deploymentId, b.bundleId)) =
          env.bundles.map fun b => (b.deploymentId, b.bundleId) := by
        rcases tracking with rfl | rfl
        · rfl
        · exact untrack_keys _ _ _
      have sameBundles : ∀ d, deploymentBundle { env with
          revisions := found.replace new, bundles := bundles } d = deploymentBundle env d :=
        deploymentBundle_of_keys sameKeys
      constructor
      · intro r member
        rw [sameBundles]
        rcases Located.mem_replace.mp member with rfl | other
        · rw [sameDeployment, sameBundle]
          exact routing.owned _ (Located.mem_hit located)
        · exact routing.owned r (Located.mem_of_mem_remove located other)
      · intro split member
        apply (routing.splits split member).mono
        · intro bundle present
          rw [sameBundles]
          exact present
        · intro other r present own
          by_cases same : other = id
          · subst same
            have hit : r = found.hit := by
              rw [revisionOf_located located] at present
              exact (Option.some.inj present).symm
            subst hit
            refine ⟨new, Located.find?_replace located (by simpa using sameId.trans hitId),
              sameDeployment.trans own, ?_⟩
            intro routes live
            rcases keeps live with stays | unrouted
            · exact stays
            · exact absurd unrouted (activeRefs_ne_nil member routes)
          · refine ⟨r, ?_, own, fun _ live => live⟩
            rw [← present]
            apply Located.find?_replace_of_ne located
            · simpa [hitId] using fun h => same h.symm
            · simpa [sameId, hitId] using fun h => same h.symm

theorem routed_of_ready {env : Environment} {deployment : DeploymentId}
    {entries : List TrafficSplitEntry} (owned : AllOwned env deployment entries)
    (ready : AllReady env entries) :
    ∀ entry ∈ entries, ∃ revision, revisionOf env entry.revisionId = some revision ∧
      revision.deploymentId = deployment ∧ routable revision.lifecycle = true := by
  intro entry member
  obtain ⟨revision, present, own⟩ := owned entry member
  obtain ⟨revision', present', isReady⟩ := ready entry member
  rw [present] at present'
  cases present'
  exact ⟨revision, present, own, by rw [isReady]; rfl⟩

theorem Routing.replaceSplit {env : Environment} {p : TrafficSplit → Bool}
    {found : Located TrafficSplit} {split : TrafficSplit} (routing : Routing serde env)
    (located : locate p env.trafficSplits = some found) (sound : SplitSound serde env split) :
    Routing serde { env with trafficSplits := found.replace split } where
  owned := routing.owned
  splits := by
    intro s member
    rcases Located.mem_replace.mp member with rfl | other
    · exact sound.of_same rfl rfl
    · exact (routing.splits s (Located.mem_of_mem_remove located other)).of_same rfl rfl

theorem Routing.edit {env after : Environment} (edit : Edit serde env after)
    (routing : Routing serde env) : Routing serde after := by
  have untouched : ∀ {after : Environment}, after.bundles = env.bundles →
      after.revisions = env.revisions → after.trafficSplits = env.trafficSplits →
      Routing serde after := by
    intro after bundles revisions splits
    refine ⟨?_, fun s member => ?_⟩
    · simpa only [deploymentBundle, bundles, revisions] using routing.owned
    · exact (routing.splits s (splits ▸ member)).of_same bundles revisions
  cases edit with
  | describe name hostConfig => exact untouched rfl rfl rfl
  | rebind packs extensions => exact untouched rfl rfl rfl
  | addEndpoint endpoint vacant links => exact untouched rfl rfl rfl
  | editEndpoint id found endpoint located sameProvider links => exact untouched rfl rfl rfl
  | dropEndpoint id found located => exact untouched rfl rfl rfl
  | revision edit => exact routing.revisionEdit edit
  | openSplit deployment split deployed bundle owned ready weights unstashed vacant =>
      have sound : SplitSound serde env split := {
        deployed := by simp only [deploymentBundle, deployed, bundle, Option.map_some]
        routed := routed_of_ready owned ready
        weights := weights
        stash := by
          intro token snapshot stashed
          rw [unstashed] at stashed
          cases stashed }
      refine ⟨routing.owned, ?_⟩
      intro s member
      rcases List.mem_append.mp member with old | new
      · exact (routing.splits s old).of_same rfl rfl
      · rw [List.mem_singleton.mp new]
        exact sound.of_same rfl rfl
  | replaceSplit deployment split token found deployed bundle owned ready weights stashed decodes
      located =>
      have previous := routing.splits _ (Located.mem_hit located)
      have hitDeployment : found.hit.deploymentId = split.deploymentId := by
        simpa using (locate_eq_some located).2.1
      have current : deploymentBundle env split.deploymentId = some split.bundleId := by
        simp only [deploymentBundle, deployed, bundle, Option.map_some]
      apply routing.replaceSplit located
      refine ⟨current, routed_of_ready owned ready, weights, ?_⟩
      intro other snapshot same decodes'
      cases stashed.symm.trans same
      cases decodes.symm.trans decodes'
      refine ⟨hitDeployment, ?_, ?_⟩
      · have old := previous.deployed
        rw [hitDeployment, current] at old
        exact (Option.some.inj old).symm
      · intro entry member
        obtain ⟨revision, present, own, -⟩ := previous.routed entry member
        exact ⟨revision, present, own.trans hitDeployment⟩
  | restoreSplit deploymentId snapshot restored token found located stashed decodes
      sameDeployment sameBundle sameEntries unstashed ready weights =>
      have previous := routing.splits _ (Located.mem_hit located)
      obtain ⟨stashDeployment, stashBundle, owned⟩ := previous.stash token snapshot stashed decodes
      have deployment : restored.deploymentId = found.hit.deploymentId :=
        sameDeployment.trans stashDeployment
      apply routing.replaceSplit located
      refine ⟨?_, ?_, weights, ?_⟩
      · rw [deployment, sameBundle, stashBundle]
        exact previous.deployed
      · rw [deployment]
        exact routed_of_ready (sameEntries ▸ owned) ready
      · intro other snapshot' same
        rw [unstashed] at same
        cases same
  | dropSplit deploymentId found located =>
      refine ⟨routing.owned, ?_⟩
      intro s member
      exact (routing.splits s (Located.mem_of_mem_remove located member)).of_same rfl rfl
  | deploy deployment vacant =>
      refine ⟨fun r member => deploymentBundle_append deployment (routing.owned r member), ?_⟩
      intro s member
      apply (routing.splits s member).mono
      · exact fun _ present => deploymentBundle_append deployment present
      · exact fun _ r present own => ⟨r, present, own, fun _ live => live⟩
  | patch bundles sameKeys =>
      have keys : bundles.map (fun b => (b.deploymentId, b.bundleId)) =
          env.bundles.map fun b => (b.deploymentId, b.bundleId) := by
        have projected := congrArg (List.map fun k => (k.1, k.2.1)) sameKeys
        simpa [Function.comp_def] using projected
      have sameBundles : ∀ d, deploymentBundle { env with bundles := bundles } d =
          deploymentBundle env d := deploymentBundle_of_keys keys
      refine ⟨fun r member => (sameBundles _).trans (routing.owned r member), ?_⟩
      intro s member
      apply (routing.splits s member).mono
      · exact fun _ present => (sameBundles _).trans present
      · exact fun _ r present own => ⟨r, present, own, fun _ live => live⟩
  | undeploy deploymentId found located unrouted =>
      have hitDeployment : found.hit.deploymentId = deploymentId := by
        simpa using (locate_eq_some located).2.1
      have others : ∀ d, d ≠ deploymentId → ∀ revisions, deploymentBundle { env with
          bundles := found.remove, revisions := revisions } d = deploymentBundle env d := by
        intro d other revisions
        simp only [deploymentBundle]
        rw [Located.find?_remove_of_ne located]
        simpa [hitDeployment] using fun h => other h.symm
      constructor
      · intro r member
        obtain ⟨old, kept⟩ := List.mem_filter.mp member
        rw [others _ (by simpa using kept)]
        exact routing.owned r old
      · intro s member
        have kept := unrouted s member
        apply (routing.splits s member).mono
        · intro bundle present
          rw [others _ kept]
          exact present
        · intro id r present own
          refine ⟨r, find?_filter_of_kept present ?_, own, fun _ live => live⟩
          simpa [own] using kept

theorem Routing.fresh (envId : EnvId) (name : String) (hostConfig : EnvironmentHostConfig)
    (revocation : RevocationConfig) (retention : RetentionPolicy) (health : HealthStatus) :
    Routing serde (freshEnvironment envId name hostConfig revocation retention health) := by
  constructor <;> simp [freshEnvironment]

/-- Routing safety of every run of the engine from a fresh environment: each
entry of each split names a revision of the split's deployment and bundle that
is ready or draining, and the weights of each split add up. -/
theorem routing_safety (serde : SerdeJson) (ext : Externals) (envId : EnvId) (name : String)
    (hostConfig : EnvironmentHostConfig) (revocation : RevocationConfig)
    (retention : RetentionPolicy) (health : HealthStatus) (verbs : List Verb)
    (admits : (engine serde ext).Admits
      (freshEnvironment envId name hostConfig revocation retention health) verbs) :
    ∀ env ∈ (engine serde ext).states
        (freshEnvironment envId name hostConfig revocation retention health) verbs,
      ∀ split ∈ env.trafficSplits,
        (∀ entry ∈ split.entries,
          (∃ revision ∈ env.revisions, revision.revisionId = entry.revisionId ∧
            revision.deploymentId = split.deploymentId ∧
            revision.bundleId = split.bundleId ∧
            (revision.lifecycle = .ready ∨ revision.lifecycle = .draining)) ∧
          entry.weightBps.toNat ≤ 10000) ∧
        (split.entries.map (·.weightBps.toNat)).sum = 10000 := by
  intro env visited split member
  have routing : Routing serde env := by
    refine (engine serde ext).invariant (Routing serde) ?_ _ verbs admits ?_ env visited
    · intro state verb _ holds
      exact (persist_edits ext state verb).preserve (Routing serde) (fun _ _ => Routing.edit) holds
    · exact .fresh ..
  have sound := routing.splits split member
  refine ⟨?_, sound.weights.2⟩
  intro entry inside
  refine ⟨?_, sound.weights.1 entry inside⟩
  obtain ⟨revision, present, own, live⟩ := sound.routed entry inside
  have stored := List.mem_of_find?_eq_some present
  refine ⟨revision, stored, by simpa using List.find?_some present, own, ?_, ?_⟩
  · have bundle := routing.owned revision stored
    rw [own, sound.deployed] at bundle
    exact (Option.some.inj bundle).symm
  · revert live
    cases revision.lifecycle <;> simp [routable]

/-- The JSON library on one split: it renders and reads back that split, and
refuses everything else. -/
def pinnedJson (split : TrafficSplit) (text : String) : SerdeJson :=
  .onText text (.only split) (.refusing _ _) (.refusing _ _)

def noExternals : Externals where
  parseUri := fun _ => none
  secretRefTryNew := fun _ => .error "unsupported"
  secretRefEnvSegment := fun secret => secret.asStr
  configOverridesLen := fun _ => 2

def firstSplit : TrafficSplit where
  schema := ⟨"greentic.traffic-split.v1"⟩
  envId := ⟨"local"⟩
  deploymentId := ⟨1⟩
  bundleId := ⟨"demo"⟩
  generation := 0
  entries := [⟨⟨7⟩, 10000⟩]
  updatedAt := 3
  updatedBy := "op"
  idempotencyKey := "k1"
  authorizationRef := "auth.json"
  previousSplitRef := none

def firstSplitJson : SerdeJson := pinnedJson firstSplit
  "\x7b\"authorization_ref\":\"auth.json\",\"bundle_id\":\"demo\",\"deployment_id\":\"00000000000000000000000001\",\"entries\":[\x7b\"revision_id\":\"00000000000000000000000007\",\"weight_bps\":10000\x7d],\"env_id\":\"local\",\"generation\":0,\"idempotency_key\":\"k1\",\"schema\":\"greentic.traffic-split.v1\",\"updated_at\":\"1970-01-01T00:00:03Z\",\"updated_by\":\"op\"\x7d"

def firstKey : IdempotencyKey := ⟨"k1", by decide⟩
def secondKey : IdempotencyKey := ⟨"k2", by decide⟩

/-- Deploy, stage, warm, route, route again, roll back, drain. -/
def routedRun : List Verb :=
  [.addBundle demoBundle ⟨1⟩ 0 "policy.json", .stageRevision demoRevision 1,
    .warmRevision ⟨⟨7⟩, .ok (), .staged⟩ 2,
    .setTrafficSplit ⟨⟨1⟩, [⟨⟨7⟩, 10000⟩], "op", none⟩ firstKey 3,
    .setTrafficSplit ⟨⟨1⟩, [⟨⟨7⟩, 5000⟩, ⟨⟨7⟩, 5000⟩], "op", none⟩ secondKey 4,
    .rollbackTrafficSplit ⟨1⟩ 5, .drainRevision ⟨7⟩]

theorem routing_safety_of_routedRun :
    (((engine firstSplitJson noExternals).run localFresh (routedRun.take 4)).trafficSplits =
      [firstSplit]) ∧
    ∀ env ∈ (engine firstSplitJson noExternals).states localFresh routedRun,
      ∀ split ∈ env.trafficSplits,
        (∀ entry ∈ split.entries,
          (∃ revision ∈ env.revisions, revision.revisionId = entry.revisionId ∧
            revision.deploymentId = split.deploymentId ∧
            revision.bundleId = split.bundleId ∧
            (revision.lifecycle = .ready ∨ revision.lifecycle = .draining)) ∧
          entry.weightBps.toNat ≤ 10000) ∧
        (split.entries.map (·.weightBps.toNat)).sum = 10000 := by
  refine ⟨by decide, ?_⟩
  refine routing_safety firstSplitJson noExternals _ _ _ _ _ _ routedRun ?_
  -- No state need be computed: only the first verb mints an id.
  simp [System.Admits, engine, routedRun, Verb.mintsFresh, freshEnvironment]

end GreenticDeployer.Engine
