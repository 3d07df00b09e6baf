import GreenticDeployer.Engine.Retirement
import GreenticDeployer.Engine.Unrouted

/-!
# The runtime config of an environment

`greentic-start` boots from a projection of the traffic splits, each entry joined
with the revision it routes to. Only the verbs that move splits change it: what
the others do to the revisions does not touch what is joined.
-/

set_option maxHeartbeats 200000

namespace GreenticDeployer.Local

open Spec Lib Engine

structure RevisionRuntimeBlock where
  deploymentId : DeploymentId
  revisionId : RevisionId
  bundleId : BundleId
  packListRefs : List PathBuf
  packConfigRefs : List PathBuf
  weightBps : UInt32
  deriving DecidableEq

structure RuntimeConfig where
  schema : SchemaVersion
  envId : EnvId
  revisions : List RevisionRuntimeBlock
  deriving DecidableEq

def runtimeConfigV1 : String := "greentic.runtime-config.v1"

def joined (env : Environment) (split : TrafficSplit) (entry : TrafficSplitEntry) :
    Option Revision :=
  env.revisions.find? fun r =>
    r.revisionId = entry.revisionId ∧ r.deploymentId = split.deploymentId

/-- The block of one split entry. A missing revision or an empty lock reference
names no file. -/
def runtimeBlock (env : Environment) (split : TrafficSplit) (entry : TrafficSplitEntry) :
    RevisionRuntimeBlock where
  deploymentId := split.deploymentId
  revisionId := entry.revisionId
  bundleId := split.bundleId
  packListRefs :=
    (((joined env split entry).filter fun r => r.packListLockRef ≠ "").map
      fun r => [r.packListLockRef]).getD []
  packConfigRefs := ((joined env split entry).map (·.packConfigRefs)).getD []
  weightBps := entry.weightBps

def materializeRuntimeConfig (env : Environment) : RuntimeConfig where
  schema := ⟨runtimeConfigV1⟩
  envId := env.environmentId
  revisions := env.trafficSplits.flatMap fun split => split.entries.map (runtimeBlock env split)

def blockRefs (revision : Revision) : PathBuf × List PathBuf :=
  (revision.packListLockRef, revision.packConfigRefs)

/-- The environment is the same to the projection: the splits, and the references
of the revisions that a deployment's own splits may name. -/
structure SameSources (before after : Environment) : Prop where
  environmentId : after.environmentId = before.environmentId
  splits : after.trafficSplits = before.trafficSplits
  revisions : ∀ split ∈ before.trafficSplits, ∀ id revision, revisionOf before id = some revision →
    revision.deploymentId = split.deploymentId → ∃ revision', revisionOf after id = some revision' ∧
      revision'.deploymentId = revision.deploymentId ∧ blockRefs revision' = blockRefs revision

theorem SameSources.of_same {before after : Environment}
    (environmentId : after.environmentId = before.environmentId)
    (splits : after.trafficSplits = before.trafficSplits)
    (revisions : after.revisions = before.revisions) : SameSources before after where
  environmentId := environmentId
  splits := splits
  revisions := by
    intro split _ id revision present _
    exact ⟨revision, by rwa [revisionOf, revisions], rfl, rfl⟩

/-- A search with a further condition that the first hit meets. -/
theorem find?_and {α : Type} {p q : α → Prop} [DecidablePred p] [DecidablePred q] {xs : List α}
    {x : α} (found : xs.find? (fun y => p y) = some x) (holds : q x) :
    xs.find? (fun y => p y ∧ q y) = some x := by
  induction xs with
  | nil => cases found
  | cons head tail ih =>
      by_cases hit : p head
      · rw [List.find?_cons_of_pos (by simpa using hit)] at found
        cases found
        simp [hit, holds]
      · rw [List.find?_cons_of_neg (by simpa using hit)] at found
        have later := ih found
        simp only [Bool.decide_and] at later ⊢
        simpa [hit] using later

variable {serde : SerdeJson}

theorem joined_eq {env : Environment} {split : TrafficSplit} {revision : Revision}
    {entry : TrafficSplitEntry} (present : revisionOf env entry.revisionId = some revision)
    (own : revision.deploymentId = split.deploymentId) :
    joined env split entry = some revision := find?_and present own

theorem materialize_eq {before after : Environment} (routing : Routing serde before)
    (same : SameSources before after) :
    materializeRuntimeConfig after = materializeRuntimeConfig before := by
  have blocks : ∀ split ∈ before.trafficSplits, ∀ entry ∈ split.entries,
      runtimeBlock after split entry = runtimeBlock before split entry := by
    intro split routed entry member
    obtain ⟨revision, present, own, -⟩ := (routing.splits split routed).routed entry member
    obtain ⟨revision', present', own', refs⟩ := same.revisions split routed _ _ present own
    have here := joined_eq present own
    have there := joined_eq present' (own'.trans own)
    simp only [blockRefs, Prod.mk.injEq] at refs
    by_cases unlocked : revision.packListLockRef = ""
    · simp [runtimeBlock, here, there, refs.1, refs.2, Option.filter, unlocked]
    · simp [runtimeBlock, here, there, refs.1, refs.2, Option.filter, unlocked]
  have revisions : (materializeRuntimeConfig after).revisions =
      (materializeRuntimeConfig before).revisions := by
    simp only [materializeRuntimeConfig, same.splits]
    apply List.flatMap_congr
    intro split routed
    exact List.map_congr_left (blocks split routed)
  simp only [materializeRuntimeConfig, RuntimeConfig.mk.injEq, same.environmentId, true_and]
  exact revisions

def movesSplits : Verb → Bool
  | .beginRetire _ => true
  | verb => verb.reroutes

theorem persist_stage_sources (env : Environment) (payload : StageRevisionPayload)
    (now : DateTime) :
    SameSources env (persistRevision env (stageRevision env payload now)) := by
  simp only [stageRevision]
  split
  · exact .of_same rfl rfl rfl
  split
  · exact .of_same rfl rfl rfl
  · refine ⟨rfl, rfl, ?_⟩
    intro split _ id revision present _
    exact ⟨revision, revisionOf_append _ present, rfl, rfl⟩

theorem persist_walk_sources {env : Environment} {id : RevisionId} {chain : List Edge}
    {expected : Option RevisionLifecycle} {onFinal : Revision → Revision} {prune : Bool}
    {gate : Environment → Revision → Except HealthGateFailure Unit}
    (identity : ∀ r, (onFinal r).revisionId = r.revisionId ∧
      (onFinal r).deploymentId = r.deploymentId ∧ blockRefs (onFinal r) = blockRefs r) :
    SameSources env
      (persistRevision env (walkRevisionChain env id chain expected onFinal prune gate)) := by
  have advanced : ∀ {found : Located Revision} {revision : Revision} {bundles},
      locate (fun r => r.revisionId = id) env.revisions = some found →
      revision.revisionId = found.hit.revisionId → revision.deploymentId = found.hit.deploymentId →
      blockRefs revision = blockRefs found.hit →
      SameSources env { env with revisions := found.replace revision, bundles := bundles } := by
    intro found revision bundles located sameId sameDeployment refs
    refine ⟨rfl, rfl, ?_⟩
    intro split _ other r present _
    have hitId : found.hit.revisionId = id := by simpa using (locate_eq_some located).2.1
    by_cases same : other = id
    · subst same
      have hit : found.hit = r := by
        rw [revisionOf_located located] at present
        exact Option.some.inj present
      subst hit
      have replaced : (found.replace revision).find? (fun r => r.revisionId = other) =
          some revision := Located.find?_replace located (by simpa using sameId.trans hitId)
      exact ⟨revision, replaced, sameDeployment, refs⟩
    · refine ⟨r, ?_, rfl, rfl⟩
      rw [← present]
      apply Located.find?_replace_of_ne located
      · simpa [hitId] using fun h => same h.symm
      · simpa [sameId, hitId] using fun h => same h.symm
  rcases outcome : walkRevisionChain env id chain expected onFinal prune gate with
    ⟨result, after⟩
  rcases walkRevisionChain_cases outcome with ⟨e, rfl, discarded⟩ | ⟨found, reached, passed, w⟩
  · simp only [persistRevision, discarded, Bool.false_eq_true, if_false]
    exact .of_same rfl rfl rfl
  · rcases w.settled with ⟨failure, -, -, -, rfl, rfl⟩ | ⟨rfl, rfl⟩
    · exact advanced w.located rfl rfl rfl
    · obtain ⟨sameId, sameDeployment, refs⟩ :=
        identity { found.hit with lifecycle := reached }
      exact advanced w.located sameId sameDeployment refs

theorem persist_removeBundle_sources (env : Environment) (id : DeploymentId) :
    SameSources env (persistOk env (removeBundle env id)) := by
  simp only [removeBundle]
  split
  · exact .of_same rfl rfl rfl
  split
  · exact .of_same rfl rfl rfl
  rename_i idle
  have unrouted : ∀ split ∈ env.trafficSplits, split.deploymentId ≠ id := by
    intro split routed same
    have counted : 0 < env.trafficSplits.countP fun s => s.deploymentId = id :=
      List.countP_pos_iff.mpr ⟨split, routed, by simpa using same⟩
    exact idle (.inl counted)
  refine ⟨rfl, rfl, ?_⟩
  intro split routed other revision present own
  have kept : revision.deploymentId ≠ id := by
    rw [own]
    exact unrouted split routed
  exact ⟨revision, find?_filter_of_kept present (by simpa using kept), rfl, rfl⟩

theorem materialize_persist (ext : Externals) {env : Environment} (routing : Routing serde env)
    {verb : Verb} (leaves : movesSplits verb = false) :
    materializeRuntimeConfig (persist serde ext env verb) = materializeRuntimeConfig env := by
  apply materialize_eq routing
  by_cases rebinds : verb.rebinds = true
  · rw [persist_rebound ext env verb rebinds]
    exact .of_same rfl rfl rfl
  by_cases relinks : verb.relinks = true
  · rw [persist_relinked ext env verb relinks]
    exact .of_same rfl rfl rfl
  cases verb with
  | updateEnvironment patch => exact .of_same rfl rfl rfl
  | stageRevision payload now => exact persist_stage_sources env payload now
  | warmRevision payload now => exact persist_walk_sources fun r => ⟨rfl, rfl, rfl⟩
  | drainRevision id => exact persist_walk_sources fun r => ⟨rfl, rfl, rfl⟩
  | archiveRevision id => exact persist_walk_sources fun r => ⟨rfl, rfl, rfl⟩
  | addBundle payload id now policyRef =>
      exact .of_same (persist_environmentId serde ext env _)
        (addBundle_splits ext env payload id now policyRef) (persist_revisions ext env _ rfl)
  | updateBundle payload policyRef =>
      exact .of_same (persist_environmentId serde ext env _)
        (updateBundle_splits ext env payload policyRef) (persist_revisions ext env _ rfl)
  | removeBundle id => exact persist_removeBundle_sources env id
  | _ => simp_all [movesSplits, Verb.reroutes, Verb.rebinds, Verb.relinks]

end GreenticDeployer.Local
