import GreenticDeployer.Spec.Valid
import GreenticDeployer.Engine.Retirement

/-!
# Archives a store accepts

Validation asks that every override pack of a deployment is listed by one of its
non-archived revisions. An archive takes one of these lists away and looks at no
override, so whether the store takes its result is decided by the lists that stay.
-/

set_option maxHeartbeats 200000

namespace GreenticDeployer.Engine

open Spec Lib

def remainingPackIds (env : Environment) (revisionId : RevisionId) (deployment : DeploymentId) :
    List String :=
  Environment.deploymentPackIds
    { env with revisions := env.revisions.eraseP fun r => r.revisionId = revisionId } deployment

/-- Without the revision, the deployments list no packs or every override pack. -/
def KeepsCover (env : Environment) (revisionId : RevisionId) : Prop :=
  ∀ bundle ∈ env.bundles,
    remainingPackIds env revisionId bundle.deploymentId = [] ∨
      ∀ packId ∈ bundle.configOverrides.keys,
        packId ∈ remainingPackIds env revisionId bundle.deploymentId

variable {env : Environment} {revisionId : RevisionId} {found : Located Revision}

def archivedRevision (found : Located Revision) : Revision :=
  { found.hit with lifecycle := .archived }

def archivedEnvironment (env : Environment) (revisionId : RevisionId)
    (found : Located Revision) : Environment :=
  { env with
    revisions := found.replace (archivedRevision found)
    bundles := untrack found.hit.deploymentId revisionId env.bundles }

theorem archiveRevision_ok {transition : RevisionTransition} {after : Environment}
    (archived : archiveRevision env revisionId = (.ok transition, after)) :
    ∃ found, locate (fun r => r.revisionId = revisionId) env.revisions = some found ∧
      after = archivedEnvironment env revisionId found := by
  rcases walkRevisionChain_cases archived with ⟨e, refused, -⟩ | ⟨found, reached, advanced, walked⟩
  · cases refused
  · have exact_ := archiveRevision_eq walked.located (walked.unrouted rfl)
    rw [archived] at exact_
    exact ⟨found, walked.located, (Prod.mk.inj exact_).2⟩

theorem deploymentPackIds_archived
    (located : locate (fun r => r.revisionId = revisionId) env.revisions = some found)
    (deployment : DeploymentId) :
    (archivedEnvironment env revisionId found).deploymentPackIds deployment =
      remainingPackIds env revisionId deployment := by
  have rest := Located.eraseP_eq located
  simp [Environment.deploymentPackIds, archivedEnvironment, remainingPackIds, rest,
    Located.replace, Located.remove, archivedRevision]

theorem find?_archived
    (located : locate (fun r => r.revisionId = revisionId) env.revisions = some found)
    (id : RevisionId) :
    ((archivedEnvironment env revisionId found).revisions.find? fun r => r.revisionId = id) =
        (env.revisions.find? fun r => r.revisionId = id) ∨
      env.revisions.find? (fun r => r.revisionId = id) = some found.hit ∧
        (archivedEnvironment env revisionId found).revisions.find? (fun r => r.revisionId = id) =
          some (archivedRevision found) := by
  have own : found.hit.revisionId = revisionId := of_decide_eq_true (locate_eq_some located).2.1
  by_cases same : id = revisionId
  · subst same
    have matched : decide ((archivedRevision found).revisionId = id) = true := decide_eq_true own
    right
    constructor
    · rw [find?_eq_locate, located]
      rfl
    · exact Located.find?_replace located matched
  · have apart : decide (found.hit.revisionId = id) = false := by
      simpa [own] using fun back => same (Eq.symm back)
    exact .inl (Located.find?_replace_of_ne located apart apart)

theorem checkCurrentRevision_archived
    (located : locate (fun r => r.revisionId = revisionId) env.revisions = some found)
    (bundle : BundleDeployment) (id : RevisionId) :
    (archivedEnvironment env revisionId found).checkCurrentRevision bundle id =
      env.checkCurrentRevision bundle id := by
  rcases find?_archived located id with same | ⟨before, after⟩
  · simp only [Environment.checkCurrentRevision, same]
  · simp only [Environment.checkCurrentRevision, before, after, archivedRevision]

theorem checkSplitEntry_archived
    (located : locate (fun r => r.revisionId = revisionId) env.revisions = some found)
    (split : TrafficSplit) (entry : TrafficSplitEntry) :
    (archivedEnvironment env revisionId found).checkSplitEntry split entry =
      env.checkSplitEntry split entry := by
  rcases find?_archived located entry.revisionId with same | ⟨before, after⟩
  · simp only [Environment.checkSplitEntry, same]
  · simp only [Environment.checkSplitEntry, before, after, archivedRevision]

theorem mem_untrack {deployment : DeploymentId} {bundles : List BundleDeployment}
    {bundle : BundleDeployment} :
    bundle ∈ untrack deployment revisionId bundles →
      ∃ before ∈ bundles, ∃ ids ⊆ before.currentRevisions,
        bundle = { before with currentRevisions := ids } := by
  intro member
  obtain ⟨before, inside, rfl⟩ := List.mem_map.mp member
  by_cases own : before.deploymentId = deployment
  · exact ⟨before, inside, _, List.filter_subset_self _, by rw [if_pos own]⟩
  · exact ⟨before, inside, _, List.Subset.refl _, by rw [if_neg own]⟩

theorem exists_untracked (deployment : DeploymentId) (revisionId : RevisionId)
    {bundles : List BundleDeployment} {bundle : BundleDeployment} (member : bundle ∈ bundles) :
    ∃ ids ⊆ bundle.currentRevisions,
      { bundle with currentRevisions := ids } ∈ untrack deployment revisionId bundles := by
  by_cases own : bundle.deploymentId = deployment
  · exact ⟨_, List.filter_subset_self _, List.mem_map.mpr ⟨bundle, member, by rw [if_pos own]⟩⟩
  · exact ⟨_, List.Subset.refl _, List.mem_map.mpr ⟨bundle, member, by rw [if_neg own]⟩⟩

theorem checkSplitBundle_of_keys {after : Environment}
    (sameKeys : after.bundles.map (fun b => (b.deploymentId, b.bundleId)) =
      env.bundles.map fun b => (b.deploymentId, b.bundleId)) (split : TrafficSplit) :
    after.checkSplitBundle split = env.checkSplitBundle split := by
  have reads : ∀ env : Environment, env.checkSplitBundle split =
      (deploymentBundle env split.deploymentId).elim
        (.error (.unknownDeployment split.deploymentId)) fun bundleId =>
          if bundleId = split.bundleId then .ok ()
          else .error (.splitDeploymentBundleMismatch split.deploymentId split.bundleId
            bundleId) := by
    intro env
    simp only [Environment.checkSplitBundle, deploymentBundle]
    cases env.bundles.find? fun b => b.deploymentId = split.deploymentId <;> rfl
  rw [reads, reads, deploymentBundle_of_keys sameKeys]

theorem checkEndpoints_of_keys {ext : Externals} (env after : Environment)
    (sameEnv : after.environmentId = env.environmentId)
    (sameKeys : after.bundles.map (fun b => (b.deploymentId, b.bundleId)) =
      env.bundles.map fun b => (b.deploymentId, b.bundleId)) (endpoints earlier) :
    after.checkEndpoints ext endpoints earlier = env.checkEndpoints ext endpoints earlier := by
  have names : after.bundles.map (·.bundleId) = env.bundles.map (·.bundleId) := by
    simpa [Function.comp_def] using congrArg (List.map Prod.snd) sameKeys
  apply Environment.checkEndpoints_congr
  intro earlier endpoint
  simp only [Environment.checkEndpoint, checkEnvId, sameEnv, names]

theorem checkBundle_archived {ext : Externals}
    (located : locate (fun r => r.revisionId = revisionId) env.revisions = some found)
    {bundle : BundleDeployment} (accepted : env.checkBundle ext bundle = .ok ())
    {ids : List RevisionId} (fewer : ids ⊆ bundle.currentRevisions) :
    (archivedEnvironment env revisionId found).checkBundle ext
        { bundle with currentRevisions := ids } = .ok () ↔
      (remainingPackIds env revisionId bundle.deploymentId = [] ∨
        ∀ packId ∈ bundle.configOverrides.keys,
          packId ∈ remainingPackIds env revisionId bundle.deploymentId) := by
  obtain ⟨own, valid, current, -⟩ := Environment.checkBundle_ok.mp accepted
  have tracked : ∀ id ∈ ids, (archivedEnvironment env revisionId found).checkCurrentRevision
      { bundle with currentRevisions := ids } id = .ok () := by
    intro id inside
    rw [checkCurrentRevision_archived located]
    exact current id (fewer inside)
  rw [Environment.checkBundle_ok, deploymentPackIds_archived located]
  constructor
  · exact fun passed => passed.2.2.2
  · exact fun covered => ⟨own, valid, tracked, covered⟩

theorem archived_valid {ext : Externals} (valid : env.validate ext = .ok ())
    (located : locate (fun r => r.revisionId = revisionId) env.revisions = some found) :
    (archivedEnvironment env revisionId found).validate ext = .ok () ↔
      KeepsCover env revisionId := by
  obtain ⟨head, visited, tail⟩ := Environment.validate_ok.mp valid
  have keys := untrack_keys found.hit.deploymentId revisionId env.bundles
  constructor
  · intro accepted bundle member
    obtain ⟨-, after, -⟩ := Environment.validate_ok.mp accepted
    obtain ⟨ids, fewer, untracked⟩ :=
      exists_untracked found.hit.deploymentId revisionId member
    exact (checkBundle_archived located (visited.bundles bundle member) fewer).mp
      (after.bundles _ untracked)
  · intro covered
    apply Environment.validate_ok.mpr
    refine ⟨head, ⟨?_, ?_, ?_⟩, ?_⟩
    · intro revision member
      rcases Located.mem_replace.mp member with rfl | other
      · exact visited.revisions found.hit (Located.mem_hit located)
      · exact visited.revisions revision (Located.mem_of_mem_remove located other)
    · intro bundle member
      obtain ⟨before, inside, ids, fewer, rfl⟩ := mem_untrack member
      exact (checkBundle_archived located (visited.bundles before inside) fewer).mpr
        (covered before inside)
    · intro split member
      obtain ⟨own, sound, deployed, entries⟩ :=
        Environment.checkSplit_ok.mp (visited.splits split member)
      apply Environment.checkSplit_ok.mpr
      refine ⟨own, sound, ?_, ?_⟩
      · rw [checkSplitBundle_of_keys keys]
        exact deployed
      · intro entry inside
        rw [checkSplitEntry_archived located]
        exact entries entry inside
    · obtain ⟨_, endpoints, extensions⟩ := bind_ok tail
      have checked : (archivedEnvironment env revisionId found).checkEndpoints ext
          env.messagingEndpoints [] = .ok () := by
        rw [checkEndpoints_of_keys env (archivedEnvironment env revisionId found) rfl keys]
        exact endpoints
      exact (bind_of_ok checked _).trans extensions

/-- A valid environment stays valid under an archive exactly if the packs that
the other revisions of each deployment list are none or cover its overrides. -/
theorem archive_storable_iff (ext : Externals) (env : Environment) (revisionId : RevisionId)
    (valid : env.validate ext = .ok ()) {transition : RevisionTransition} {after : Environment}
    (archived : archiveRevision env revisionId = (.ok transition, after)) :
    after.validate ext = .ok () ↔ KeepsCover env revisionId := by
  obtain ⟨found, located, rfl⟩ := archiveRevision_ok archived
  exact archived_valid valid located

def telegram : PackListEntry := ⟨⟨"telegram"⟩, "1.0.0", "sha256:00", none⟩

def slack : PackListEntry := ⟨⟨"slack"⟩, "1.0.0", "sha256:00", none⟩

def overridden (second : List PackListEntry) : Environment :=
  (engine firstSplitJson noExternals).run localFresh
    [.addBundle { demoBundle with
        configOverrides := ⟨[("telegram", BTreeMap.empty)], List.pairwise_singleton _ _⟩ }
      ⟨1⟩ 0 "policy.json",
      .stageRevision { demoRevision with packList := [telegram] } 1,
      .stageRevision { demoRevision with revisionId := ⟨8⟩, packList := second } 2]

theorem archive_storable_iff_of_overridden :
    ∃ transition after,
      archiveRevision (overridden [slack, telegram]) ⟨7⟩ = (.ok transition, after) ∧
      after.validate noExternals = .ok () := by
  have kept : KeepsCover (overridden [slack, telegram]) ⟨7⟩ := by
    unfold KeepsCover
    decide
  exact ⟨_, _, rfl, (archive_storable_iff noExternals (overridden [slack, telegram]) ⟨7⟩
    (by decide) rfl).mpr kept⟩

/-- The only revision that lists an overridden pack is archived beside one that
lists another. -/
theorem archive_unstorable :
    (overridden [slack]).validate noExternals = .ok () ∧
      ∃ transition after, archiveRevision (overridden [slack]) ⟨7⟩ = (.ok transition, after) ∧
        after.validate noExternals =
          .error (.configOverridePackNotInRevisions ⟨1⟩ "telegram") :=
  ⟨by decide, _, _, rfl, by decide⟩

end GreenticDeployer.Engine
