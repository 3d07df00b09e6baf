import GreenticDeployer.Engine.Retirement

/-!
# Retired deployments and their splits

`begin_retire` marks a deployment archived and takes its split in one write. Two
other verbs can bring the mark and a split together: an update that sets the
status, and a split set for a deployment already marked.
-/

set_option maxHeartbeats 200000

namespace GreenticDeployer.Engine

open Spec Lib

variable {serde : SerdeJson}

def Retired (env : Environment) (id : DeploymentId) : Prop :=
  ∃ bundle ∈ env.bundles, bundle.deploymentId = id ∧ bundle.status = .archived

def Routed (env : Environment) (id : DeploymentId) : Prop :=
  ∃ split ∈ env.trafficSplits, split.deploymentId = id

def RetiredUnrouted (env : Environment) : Prop := ∀ id, Retired env id → ¬ Routed env id

/-- The verb neither marks a routed deployment archived nor routes to an archived
one. -/
def Verb.keepsMarksApart (env : Environment) : Verb → Prop
  | .updateBundle payload _ =>
    payload.status = some .archived → ¬ Routed env payload.deploymentId
  | .setTrafficSplit payload _ _ => ¬ Retired env payload.deploymentId
  | _ => True

theorem RetiredUnrouted.mono {env after : Environment} (apart : RetiredUnrouted env)
    (marks : ∀ id, Retired after id → Retired env id)
    (routes : ∀ id, Routed after id → Routed env id) : RetiredUnrouted after := by
  intro id retired routed
  exact apart id (marks id retired) (routes id routed)

theorem RetiredUnrouted.of_same {env after : Environment} (apart : RetiredUnrouted env)
    (bundles : after.bundles = env.bundles) (splits : after.trafficSplits = env.trafficSplits) :
    RetiredUnrouted after := by
  refine apart.mono ?_ ?_
  · simp [Retired, bundles]
  · simp [Routed, splits]

theorem untrack_retired {deploymentId : DeploymentId} {id : RevisionId} {env : Environment}
    {revisions : List Revision} {retiree : DeploymentId}
    (retired : Retired { env with
      revisions := revisions, bundles := untrack deploymentId id env.bundles } retiree) :
    Retired env retiree := by
  obtain ⟨bundle, member, same, archived⟩ := retired
  simp only [untrack, List.mem_map] at member
  obtain ⟨before, inside, rfl⟩ := member
  refine ⟨before, inside, ?_, ?_⟩
  · split at same <;> exact same
  · split at archived <;> exact archived

theorem RetiredUnrouted.revision {id : RevisionId} {env after : Environment}
    (apart : RetiredUnrouted env) (edit : RevisionEdit id env after) : RetiredUnrouted after := by
  cases edit with
  | keep => exact apart
  | stage => exact apart.of_same rfl rfl
  | advance found new bundles located sameId sameDeployment sameBundle hop keeps tracking =>
      rcases tracking with rfl | rfl
      · exact apart.of_same rfl rfl
      · exact apart.mono (fun _ => untrack_retired) fun _ routed => routed

theorem routed_of_takeSplit {env : Environment} {taken id : DeploymentId}
    (routed : Routed (takeSplit env taken).2 id) : Routed env id := by
  unfold takeSplit at routed
  split at routed
  · exact routed
  · next found located =>
      obtain ⟨split, member, same⟩ := routed
      exact ⟨split, Located.mem_of_mem_remove located member, same⟩

theorem routed_of_applyTrafficSplit {env : Environment} {payload : SetTrafficSplitPayload}
    {key : IdempotencyKey} {now : DateTime} {bundleId : BundleId}
    {found : Option (Located TrafficSplit)}
    (located : locate (fun s => s.deploymentId = payload.deploymentId) env.trafficSplits = found) :
    ∀ id, Routed (applyTrafficSplit serde env payload key now bundleId found).2 id →
      Routed env id ∨ id = payload.deploymentId := by
  unfold applyTrafficSplit
  split
  · exact fun _ routed => .inl routed
  split
  · exact fun _ routed => .inl routed
  dsimp only
  split
  · exact fun _ routed => .inl routed
  rintro id ⟨split, member, same⟩
  cases found with
  | none =>
      rcases List.mem_append.mp member with before | added
      · exact .inl ⟨split, before, same⟩
      · rw [List.mem_singleton.mp added] at same
        exact .inr same.symm
  | some hit =>
      rcases Located.mem_replace.mp member with new | before
      · rw [new] at same
        exact .inr same.symm
      · exact .inl ⟨split, Located.mem_of_mem_remove located before, same⟩

theorem routed_of_setTrafficSplit (env : Environment) (payload : SetTrafficSplitPayload)
    (key : IdempotencyKey) (now : DateTime) :
    ∀ id, Routed (persistMutated (·.mutated) env (setTrafficSplit serde env payload key now)) id →
      Routed env id ∨ id = payload.deploymentId := by
  refine persistMutated_of
    (fun after => ∀ id, Routed after id → Routed env id ∨ id = payload.deploymentId)
    (fun _ routed => .inl routed) ?_
  unfold setTrafficSplit
  split
  · exact fun _ routed => .inl routed
  split
  · exact fun _ routed => .inl routed
  split
  · next located => exact routed_of_applyTrafficSplit located
  · next located =>
      split
      · split
        · exact fun _ routed => .inl routed
        · exact fun _ routed => .inl routed
      · exact routed_of_applyTrafficSplit located

theorem routed_of_rollbackTrafficSplit {env : Environment} (routing : Routing serde env)
    (rolled : DeploymentId) (now : DateTime) :
    ∀ id, Routed (persistOk env (rollbackTrafficSplit serde env rolled now)) id →
      Routed env id := by
  simp only [rollbackTrafficSplit]
  split
  · exact fun _ routed => routed
  rename_i found located
  split
  · exact fun _ routed => routed
  rename_i token stashed
  split
  · exact fun _ routed => routed
  rename_i value loaded
  split
  · exact fun _ routed => routed
  rename_i snapshot decoded
  split
  · exact fun _ routed => routed
  split
  · exact fun _ routed => routed
  rintro id ⟨split, member, same⟩
  have decodes : decodeSplit serde token = some snapshot := by
    simp [decodeSplit, loaded, decoded, Except.toOption]
  have hit := Located.mem_hit located
  have kept := (routing.splits found.hit hit).stash token snapshot stashed decodes
  rcases Located.mem_replace.mp member with new | before
  · rw [new] at same
    exact ⟨found.hit, hit, kept.1.symm.trans same⟩
  · exact ⟨split, Located.mem_of_mem_remove located before, same⟩

theorem retired_of_pin {env : Environment} {index : Nat} {policyRef : PathBuf} {id : DeploymentId}
    (retired : Retired (pinRevenuePolicyRef env index policyRef) id) : Retired env id := by
  obtain ⟨bundle, member, same, archived⟩ := retired
  obtain ⟨place, found⟩ := List.mem_iff_getElem?.mp member
  simp only [pinRevenuePolicyRef, List.getElem?_modify, Option.map_eq_map,
    Option.map_eq_some_iff] at found
  obtain ⟨before, held, rfl⟩ := found
  refine ⟨before, List.mem_of_getElem? held, ?_, ?_⟩
  · split at same <;> exact same
  · split at archived <;> exact archived

theorem retired_of_addBundle (ext : Externals) (env : Environment) (payload : AddBundlePayload)
    (id : DeploymentId) (now : DateTime) (policyRef : PathBuf) (retiree : DeploymentId)
    (retired : Retired (persist serde ext env (.addBundle payload id now policyRef)) retiree) :
    Retired env retiree := by
  simp only [persist, addBundle] at retired
  split at retired
  · rename_i added
    split at added
    · cases added
    · cases added
      obtain ⟨bundle, member, same, archived⟩ := retired_of_pin retired
      rcases List.mem_append.mp member with before | new
      · exact ⟨bundle, before, same, archived⟩
      · rw [List.mem_singleton.mp new] at archived
        cases archived
  · exact retired

theorem retired_of_updateBundle (ext : Externals) (env : Environment)
    (payload : UpdateBundlePayload) (policyRef : PathBuf) (retiree : DeploymentId)
    (retired : Retired (persist serde ext env (.updateBundle payload policyRef)) retiree) :
    Retired env retiree ∨ (retiree = payload.deploymentId ∧ payload.status = some .archived) := by
  simp only [persist, updateBundle] at retired
  cases located : locate (fun b => decide (b.deploymentId = payload.deploymentId)) env.bundles with
  | none =>
      rw [located] at retired
      exact .inl retired
  | some found =>
      rw [located] at retired
      have patched : Retired
          { env with bundles := found.replace (patchBundle payload found.hit) } retiree := by
        dsimp only at retired
        split at retired
        · exact retired_of_pin retired
        · exact retired
      obtain ⟨bundle, member, same, archived⟩ := patched
      have hit : found.hit.deploymentId = payload.deploymentId :=
        of_decide_eq_true (locate_eq_some located).2.1
      rcases Located.mem_replace.mp member with new | before
      · rw [new] at same archived
        cases status : payload.status with
        | none =>
            simp only [patchBundle, status, Option.getD_none] at same archived
            exact .inl ⟨found.hit, Located.mem_hit located, same, archived⟩
        | some wanted =>
            simp only [patchBundle, status, Option.getD_some] at same archived
            exact .inr ⟨same.symm.trans hit, by rw [archived]⟩
      · exact .inl ⟨bundle, Located.mem_of_mem_remove located before, same, archived⟩

theorem RetiredUnrouted.removeBundle {env : Environment} (apart : RetiredUnrouted env)
    (id : DeploymentId) : RetiredUnrouted (persistOk env (Engine.removeBundle env id)) := by
  refine persistOk_of RetiredUnrouted apart ?_
  unfold Engine.removeBundle
  split
  · exact apart
  · next found located =>
      dsimp only
      split
      · exact apart
      · refine apart.mono ?_ (fun _ routed => routed)
        rintro retiree ⟨bundle, member, same, archived⟩
        exact ⟨bundle, Located.mem_of_mem_remove located member, same, archived⟩

theorem RetiredUnrouted.beginRetire {env : Environment} (apart : RetiredUnrouted env)
    (distinct : (env.trafficSplits.map (·.deploymentId)).Nodup) (id : DeploymentId) :
    RetiredUnrouted (persistMutated (·.mutated) env (Engine.beginRetire env id)) := by
  refine persistMutated_of RetiredUnrouted apart ?_
  unfold Engine.beginRetire
  split
  · exact apart
  simp only [deploymentIndex]
  cases located : locate (fun b => decide (b.deploymentId = id)) env.bundles with
  | none => exact apart
  | some found =>
      dsimp only
      have hit : found.hit.deploymentId = id := of_decide_eq_true (locate_eq_some located).2.1
      have taken := (takeSplit_quiet
        { env with bundles := found.replace { found.hit with status := .archived } } id distinct).1
      rintro retiree ⟨bundle, member, same, archived⟩ routed
      obtain ⟨split, inside, routes⟩ := routed
      rw [taken] at inside
      obtain ⟨before, other⟩ := List.mem_filter.mp inside
      have apartFromId : retiree ≠ id := by
        rw [← routes]
        exact of_decide_eq_true other
      rw [takeSplit_frame] at member
      rcases Located.mem_replace.mp member with new | older
      · rw [new] at same
        exact apartFromId (same.symm.trans hit)
      · have marked : Retired env retiree :=
          ⟨bundle, Located.mem_of_mem_remove located older, same, archived⟩
        exact apart retiree marked ⟨split, before, routes⟩

theorem persist_splits (ext : Externals) (env : Environment) (verb : Verb)
    (leaves : verb.leavesBundles = true) (unrouted : verb.reroutes = false) :
    (persist serde ext env verb).trafficSplits = env.trafficSplits := by
  by_cases rebinds : verb.rebinds = true
  · rw [persist_rebound ext env verb rebinds]
  by_cases relinks : verb.relinks = true
  · rw [persist_relinked ext env verb relinks]
  cases verb with
  | updateEnvironment patch => rfl
  | _ => simp_all [Verb.leavesBundles]

theorem addBundle_splits (ext : Externals) (env : Environment) (payload : AddBundlePayload)
    (id : DeploymentId) (now : DateTime) (policyRef : PathBuf) :
    (persist serde ext env (.addBundle payload id now policyRef)).trafficSplits =
      env.trafficSplits := by
  simp only [persist, addBundle]
  split
  · rename_i added
    split at added
    · cases added
    · cases added
      rfl
  · rfl

theorem updateBundle_splits (ext : Externals) (env : Environment) (payload : UpdateBundlePayload)
    (policyRef : PathBuf) :
    (persist serde ext env (.updateBundle payload policyRef)).trafficSplits =
      env.trafficSplits := by
  simp only [persist, updateBundle]
  cases locate (fun b => b.deploymentId = payload.deploymentId) env.bundles with
  | none => rfl
  | some found =>
      dsimp only
      split <;> rfl

theorem RetiredUnrouted.step (ext : Externals) {env : Environment} {verb : Verb}
    (apart : RetiredUnrouted env) (kept : WellKept serde env)
    (careful : verb.keepsMarksApart env) : RetiredUnrouted (persist serde ext env verb) := by
  cases verb with
  | stageRevision payload now => exact apart.revision (persist_stage env payload now)
  | warmRevision payload now => exact apart.revision (persist_warm env payload now)
  | drainRevision id => exact apart.revision (persist_drain env id)
  | archiveRevision id => exact apart.revision (persist_archive env id)
  | setTrafficSplit payload key now =>
      intro id retired routed
      have marked : Retired env id := by
        rw [persist_rerouted ext env _ rfl] at retired
        exact retired
      rcases routed_of_setTrafficSplit env payload key now id routed with before | new
      · exact apart id marked before
      · exact careful (new ▸ marked)
  | rollbackTrafficSplit id now =>
      refine apart.mono ?_ (routed_of_rollbackTrafficSplit kept.routing id now)
      intro retiree retired
      rw [persist_rerouted ext env _ rfl] at retired
      exact retired
  | clearTrafficSplit id =>
      refine apart.mono ?_ ?_
      · intro retiree retired
        rw [persist_rerouted ext env _ rfl] at retired
        exact retired
      · refine persistMutated_of (fun after => ∀ other, Routed after other → Routed env other)
          (fun _ routed => routed) ?_
        unfold Engine.clearTrafficSplit
        split
        · exact fun _ routed => routed
        · split
          · exact fun _ routed => routed
          · exact fun _ routed => routed_of_takeSplit routed
  | addBundle payload id now policyRef =>
      refine apart.mono (retired_of_addBundle ext env payload id now policyRef) ?_
      simp [Routed, addBundle_splits]
  | updateBundle payload policyRef =>
      intro id retired routed
      have before : Routed env id := by
        simpa [Routed, updateBundle_splits] using routed
      rcases retired_of_updateBundle ext env payload policyRef id retired with marked | new
      · exact apart id marked before
      · exact careful new.2 (new.1 ▸ before)
  | removeBundle id => exact apart.removeBundle id
  | beginRetire id => exact apart.beginRetire kept.unique.splits id
  | _ =>
      refine apart.of_same ?_ ?_
      · exact persist_bundles ext env _ rfl
      · exact persist_splits ext env _ rfl rfl

end GreenticDeployer.Engine
