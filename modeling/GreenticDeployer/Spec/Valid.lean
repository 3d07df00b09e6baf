import GreenticDeployer.Lib.Results
import GreenticDeployer.Spec.Validate

/-!
# What a valid environment passes

Validation visits the revisions, the deployments and the splits one at a time. Two
environments that differ in their revisions only are validated alike but for these visits.
-/

set_option maxHeartbeats 200000

namespace GreenticDeployer.Spec.Environment

open Lib

def checkRevision (env : Environment) (revision : Revision) : Except SpecError Unit := do
  revision.validate
  checkEnvId "revision" env revision.envId

/-- The visits of the parts that refer to revisions, or are revisions. -/
structure Visited (ext : Externals) (env : Environment) : Prop where
  revisions : ∀ revision ∈ env.revisions, env.checkRevision revision = .ok ()
  bundles : ∀ bundle ∈ env.bundles, env.checkBundle ext bundle = .ok ()
  splits : ∀ split ∈ env.trafficSplits, env.checkSplit split = .ok ()

def validateHead (ext : Externals) (env : Environment) : Except SpecError Unit := do
  checkSchema SchemaVersion.environmentV1 env.schema
  checkEnvId "host_config" env env.hostConfig.envId
  if let some url := env.hostConfig.publicBaseUrl then
    let _ ← validatePublicBaseUrl ext url
  checkDistinct (·.slot) (fun b => .duplicateCapabilitySlot b.slot) env.packs []
  if let some credentials := env.credentialsRef then
    checkSecretEnv ext "credentials_ref" env.environmentId credentials

def validateTail (ext : Externals) (env : Environment) : Except SpecError Unit := do
  env.checkEndpoints ext env.messagingEndpoints []
  checkExtensions env.extensions []

theorem validate_eq (ext : Externals) (env : Environment) :
    env.validate ext = (do
      env.validateHead ext
      env.revisions.forM env.checkRevision
      env.bundles.forM (env.checkBundle ext)
      env.trafficSplits.forM env.checkSplit
      env.validateTail ext) := by
  unfold validate validateHead
  cases env.hostConfig.publicBaseUrl <;> cases env.credentialsRef <;>
    simp only [bind_assoc] <;> rfl

theorem validate_ok {ext : Externals} {env : Environment} :
    env.validate ext = .ok () ↔
      env.validateHead ext = .ok () ∧ Visited ext env ∧ env.validateTail ext = .ok () := by
  rw [validate_eq]
  constructor
  · intro accepted
    obtain ⟨_, head, accepted⟩ := bind_ok accepted
    obtain ⟨_, revisions, accepted⟩ := bind_ok accepted
    obtain ⟨_, bundles, accepted⟩ := bind_ok accepted
    obtain ⟨_, splits, tail⟩ := bind_ok accepted
    exact ⟨head, ⟨forM_ok.mp revisions, forM_ok.mp bundles, forM_ok.mp splits⟩, tail⟩
  · rintro ⟨head, visited, tail⟩
    rw [head, forM_ok.mpr visited.revisions, forM_ok.mpr visited.bundles,
      forM_ok.mpr visited.splits]
    exact tail

theorem checkEndpoints_congr {ext : Externals} {env env' : Environment}
    (each : ∀ earlier endpoint,
      env'.checkEndpoint ext earlier endpoint = env.checkEndpoint ext earlier endpoint)
    (endpoints earlier : List MessagingEndpoint) :
    env'.checkEndpoints ext endpoints earlier = env.checkEndpoints ext endpoints earlier := by
  induction endpoints generalizing earlier with
  | nil => rfl
  | cons endpoint rest ih =>
      simp only [checkEndpoints, each, ih]

theorem checkBundle_ok {ext : Externals} {env : Environment} {bundle : BundleDeployment} :
    env.checkBundle ext bundle = .ok () ↔
      checkEnvId "bundle_deployment" env bundle.envId = .ok () ∧ bundle.validate ext = .ok () ∧
      (∀ id ∈ bundle.currentRevisions, env.checkCurrentRevision bundle id = .ok ()) ∧
      (env.deploymentPackIds bundle.deploymentId = [] ∨
        ∀ packId ∈ bundle.configOverrides.keys,
          packId ∈ env.deploymentPackIds bundle.deploymentId) := by
  have overrides : (∀ packId ∈ bundle.configOverrides.keys,
      (if packId ∈ env.deploymentPackIds bundle.deploymentId then pure ()
        else throw (.configOverridePackNotInRevisions bundle.deploymentId packId) :
        Except SpecError Unit) = .ok ()) ↔
      ∀ packId ∈ bundle.configOverrides.keys,
        packId ∈ env.deploymentPackIds bundle.deploymentId := by
    refine forall₂_congr fun packId _ => ?_
    split
    · exact ⟨fun _ => by assumption, fun _ => rfl⟩
    · exact ⟨fun passed => (by cases passed), fun listed => absurd listed (by assumption)⟩
  constructor
  · intro accepted
    obtain ⟨_, own, accepted⟩ := bind_ok accepted
    obtain ⟨_, valid, accepted⟩ := bind_ok accepted
    obtain ⟨_, current, accepted⟩ := bind_ok accepted
    refine ⟨own, valid, forM_ok.mp current, ?_⟩
    by_cases unlisted : env.deploymentPackIds bundle.deploymentId = []
    · exact .inl unlisted
    · rw [if_neg unlisted] at accepted
      exact .inr (overrides.mp (forM_ok.mp accepted))
  · rintro ⟨own, valid, current, listed⟩
    rw [checkBundle, own, bind_of_ok rfl, valid, bind_of_ok rfl, forM_ok.mpr current,
      bind_of_ok rfl]
    split
    · rfl
    · rename_i some_
      exact forM_ok.mpr (overrides.mpr (listed.resolve_left some_))

def checkSplitBundle (env : Environment) (split : TrafficSplit) : Except SpecError Unit :=
  match env.bundles.find? fun b => b.deploymentId = split.deploymentId with
  | none => .error (.unknownDeployment split.deploymentId)
  | some bundle =>
    if bundle.bundleId = split.bundleId then .ok ()
    else .error (.splitDeploymentBundleMismatch split.deploymentId split.bundleId
      bundle.bundleId)

theorem checkSplit_ok {env : Environment} {split : TrafficSplit} :
    env.checkSplit split = .ok () ↔
      checkEnvId "traffic_split" env split.envId = .ok () ∧ split.validate = .ok () ∧
      env.checkSplitBundle split = .ok () ∧
      ∀ entry ∈ split.entries, env.checkSplitEntry split entry = .ok () := by
  have shape : env.checkSplit split = (do
      checkEnvId "traffic_split" env split.envId
      split.validate
      env.checkSplitBundle split
      split.entries.forM (env.checkSplitEntry split)) := by
    unfold checkSplit checkSplitBundle
    cases env.bundles.find? fun b => b.deploymentId = split.deploymentId with
    | none => rfl
    | some bundle => by_cases own : bundle.bundleId = split.bundleId <;> simp [own] <;> rfl
  rw [shape, ← forM_ok]
  constructor
  · intro accepted
    obtain ⟨_, own, accepted⟩ := bind_ok accepted
    obtain ⟨_, valid, accepted⟩ := bind_ok accepted
    obtain ⟨_, deployed, accepted⟩ := bind_ok accepted
    exact ⟨own, valid, deployed, accepted⟩
  · rintro ⟨own, valid, deployed, entries⟩
    rw [own, valid, deployed]
    exact entries

theorem checkDistinct_ok {α κ : Type} [DecidableEq κ] {key : α → κ} {refuse : α → SpecError}
    {xs : List α} {seen : List κ} (accepted : checkDistinct key refuse xs seen = .ok ()) :
    (xs.map key).Nodup ∧ ∀ x ∈ xs, key x ∉ seen := by
  induction xs generalizing seen with
  | nil => simp
  | cons head rest ih =>
      unfold checkDistinct at accepted
      split at accepted
      · cases accepted
      · rename_i fresh
        obtain ⟨distinct, unseen⟩ := ih accepted
        refine ⟨List.nodup_cons.mpr ⟨?_, distinct⟩, ?_⟩
        · intro member
          obtain ⟨x, inside, same⟩ := List.mem_map.mp member
          exact unseen x inside (same ▸ List.mem_cons_self)
        · exact List.forall_mem_cons.mpr ⟨fresh, fun x inside old =>
            unseen x inside (List.mem_cons_of_mem _ old)⟩

theorem checkExtensions_ok {bindings : List ExtensionBinding}
    {seen : List (String × Option String)}
    (accepted : checkExtensions bindings seen = .ok ()) :
    (bindings.map fun b => (b.kind.path, b.instanceId)).Nodup ∧
      ∀ b ∈ bindings, (b.kind.path, b.instanceId) ∉ seen := by
  induction bindings generalizing seen with
  | nil => simp
  | cons head rest ih =>
      unfold checkExtensions at accepted
      obtain ⟨_, -, accepted⟩ := bind_ok accepted
      by_cases old : (head.kind.path, head.instanceId) ∈ seen
      · rw [if_pos old] at accepted
        cases accepted
      · rw [if_neg old] at accepted
        obtain ⟨distinct, unseen⟩ := ih accepted
        refine ⟨List.nodup_cons.mpr ⟨?_, distinct⟩, ?_⟩
        · intro member
          obtain ⟨b, inside, same⟩ := List.mem_map.mp member
          exact unseen b inside (same ▸ List.mem_cons_self)
        · exact List.forall_mem_cons.mpr ⟨old, fun b inside before =>
            unseen b inside (List.mem_cons_of_mem _ before)⟩

theorem distinct_slots {ext : Externals} {env : Environment} (valid : env.validate ext = .ok ()) :
    (env.packs.map (·.slot)).Nodup := by
  obtain ⟨head, -, -⟩ := validate_ok.mp valid
  have checked : ∃ refuse, checkDistinct (·.slot) refuse env.packs [] = .ok () := by
    unfold validateHead at head
    obtain ⟨_, -, head⟩ := bind_ok head
    obtain ⟨_, -, head⟩ := bind_ok head
    cases url : env.hostConfig.publicBaseUrl with
    | none =>
        simp only [url] at head
        obtain ⟨_, slots, -⟩ := bind_ok head
        exact ⟨_, slots⟩
    | some _ =>
        simp only [url] at head
        obtain ⟨_, -, head⟩ := bind_ok head
        obtain ⟨_, slots, -⟩ := bind_ok head
        exact ⟨_, slots⟩
  obtain ⟨_, slots⟩ := checked
  exact (checkDistinct_ok slots).1

theorem distinct_extensions {ext : Externals} {env : Environment}
    (valid : env.validate ext = .ok ()) :
    (env.extensions.map fun b => (b.kind.path, b.instanceId)).Nodup := by
  obtain ⟨-, -, tail⟩ := validate_ok.mp valid
  obtain ⟨_, -, extensions⟩ := bind_ok tail
  exact (checkExtensions_ok extensions).1

theorem validate_with_revisions {ext : Externals} {env : Environment}
    (accepted : env.validate ext = .ok ()) {revisions : List Revision}
    (visited : Visited ext { env with revisions := revisions }) :
    { env with revisions := revisions }.validate ext = .ok () := by
  obtain ⟨head, -, tail⟩ := validate_ok.mp accepted
  have each : ∀ earlier endpoint, { env with revisions := revisions }.checkEndpoint ext earlier
      endpoint = env.checkEndpoint ext earlier endpoint := fun _ _ => rfl
  have endpoints := checkEndpoints_congr each env.messagingEndpoints []
  refine validate_ok.mpr ⟨head, visited, ?_⟩
  simp only [validateTail] at tail ⊢
  rw [endpoints]
  exact tail

end GreenticDeployer.Spec.Environment
