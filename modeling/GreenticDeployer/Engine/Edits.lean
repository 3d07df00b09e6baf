import GreenticDeployer.Engine.Lifecycle
import GreenticDeployer.Engine.Verbs

/-!
# The edits behind the verbs

What a verb may do to the stored environment, said once: every persisted result
is reached from the stored state by a few guarded edits. Invariants of the
document are then proved edit by edit.
-/

set_option maxHeartbeats 200000

namespace GreenticDeployer.Engine

open Spec Lib

def decodeSplit (serde : SerdeJson) (token : PathBuf) : Option TrafficSplit :=
  (loadInline serde token).bind fun value => (serde.split.fromValue value).toOption

/-- The weights `TrafficSplit::validate` admits. -/
def WeightsValid (split : TrafficSplit) : Prop :=
  (∀ entry ∈ split.entries, entry.weightBps.toNat ≤ 10000) ∧
    (split.entries.map (·.weightBps.toNat)).sum = 10000

def AllReady (env : Environment) (entries : List TrafficSplitEntry) : Prop :=
  ∀ entry ∈ entries, ∃ revision, revisionOf env entry.revisionId = some revision ∧
    revision.lifecycle = .ready

def AllOwned (env : Environment) (deployment : DeploymentId)
    (entries : List TrafficSplitEntry) : Prop :=
  ∀ entry ∈ entries, ∃ revision, revisionOf env entry.revisionId = some revision ∧
    revision.deploymentId = deployment

def LinksSound (endpoint : MessagingEndpoint) : Prop :=
  endpoint.linkedBundles.Nodup ∧
    ∀ welcome, endpoint.welcomeFlow = some welcome → welcome.bundleId ∈ endpoint.linkedBundles

inductive Edit (serde : SerdeJson) (env : Environment) : Environment → Prop
  | describe (name : String) (hostConfig : EnvironmentHostConfig) :
      Edit serde env { env with name := name, hostConfig := hostConfig }
  | rebind (packs : List EnvPackBinding) (extensions : List ExtensionBinding) :
      Edit serde env { env with packs := packs, extensions := extensions }
  | revision {id : RevisionId} {after : Environment} (edit : RevisionEdit id env after) :
      Edit serde env after
  | openSplit (deployment : BundleDeployment) (split : TrafficSplit)
      (deployed : env.bundles.find? (fun b => b.deploymentId = split.deploymentId) =
        some deployment)
      (bundle : split.bundleId = deployment.bundleId)
      (owned : AllOwned env split.deploymentId split.entries)
      (ready : AllReady env split.entries)
      (weights : WeightsValid split)
      (unstashed : split.previousSplitRef = none)
      (vacant : ∀ s ∈ env.trafficSplits, s.deploymentId ≠ split.deploymentId) :
      Edit serde env { env with trafficSplits := env.trafficSplits ++ [split] }
  | replaceSplit (deployment : BundleDeployment) (split : TrafficSplit) (token : PathBuf)
      (found : Located TrafficSplit)
      (deployed : env.bundles.find? (fun b => b.deploymentId = split.deploymentId) =
        some deployment)
      (bundle : split.bundleId = deployment.bundleId)
      (owned : AllOwned env split.deploymentId split.entries)
      (ready : AllReady env split.entries)
      (weights : WeightsValid split)
      (stashed : split.previousSplitRef = some token)
      (decodes : decodeSplit serde token = some { found.hit with previousSplitRef := none })
      (located : locate (fun s => s.deploymentId = split.deploymentId) env.trafficSplits =
        some found) :
      Edit serde env { env with trafficSplits := found.replace split }
  | restoreSplit (deploymentId : DeploymentId) (snapshot restored : TrafficSplit)
      (token : PathBuf) (found : Located TrafficSplit)
      (located : locate (fun s => s.deploymentId = deploymentId) env.trafficSplits = some found)
      (stashed : found.hit.previousSplitRef = some token)
      (decodes : decodeSplit serde token = some snapshot)
      (sameDeployment : restored.deploymentId = snapshot.deploymentId)
      (sameBundle : restored.bundleId = snapshot.bundleId)
      (sameEntries : restored.entries = snapshot.entries)
      (unstashed : restored.previousSplitRef = none)
      (ready : AllReady env restored.entries)
      (weights : WeightsValid restored) :
      Edit serde env { env with trafficSplits := found.replace restored }
  | dropSplit (deploymentId : DeploymentId) (found : Located TrafficSplit)
      (located : locate (fun s => s.deploymentId = deploymentId) env.trafficSplits =
        some found) :
      Edit serde env { env with trafficSplits := found.remove }
  | deploy (deployment : BundleDeployment)
      (vacant : ∀ b ∈ env.bundles,
        (b.bundleId, b.customerId) ≠ (deployment.bundleId, deployment.customerId)) :
      Edit serde env { env with bundles := env.bundles ++ [deployment] }
  | patch (bundles : List BundleDeployment)
      (sameKeys : bundles.map (fun b => (b.deploymentId, b.bundleId, b.customerId)) =
        env.bundles.map fun b => (b.deploymentId, b.bundleId, b.customerId)) :
      Edit serde env { env with bundles := bundles }
  | undeploy (deploymentId : DeploymentId) (found : Located BundleDeployment)
      (located : locate (fun b => b.deploymentId = deploymentId) env.bundles = some found)
      (unrouted : ∀ s ∈ env.trafficSplits, s.deploymentId ≠ deploymentId) :
      Edit serde env { env with
        bundles := found.remove
        revisions := env.revisions.filter fun r => r.deploymentId ≠ deploymentId }
  | addEndpoint (endpoint : MessagingEndpoint)
      (vacant : ∀ e ∈ env.messagingEndpoints,
        (e.providerType, e.providerId) ≠ (endpoint.providerType, endpoint.providerId))
      (links : LinksSound endpoint) :
      Edit serde env { env with messagingEndpoints := env.messagingEndpoints ++ [endpoint] }
  | editEndpoint (endpointId : MessagingEndpointId) (found : Located MessagingEndpoint)
      (endpoint : MessagingEndpoint)
      (located : locate (fun e => e.endpointId = endpointId) env.messagingEndpoints =
        some found)
      (sameProvider : (endpoint.providerType, endpoint.providerId) =
        (found.hit.providerType, found.hit.providerId))
      (links : LinksSound found.hit → LinksSound endpoint) :
      Edit serde env { env with messagingEndpoints := found.replace endpoint }
  | dropEndpoint (endpointId : MessagingEndpointId) (found : Located MessagingEndpoint)
      (located : locate (fun e => e.endpointId = endpointId) env.messagingEndpoints =
        some found) :
      Edit serde env { env with messagingEndpoints := found.remove }

abbrev Edits (serde : SerdeJson) := Relation.ReflTransGen (Edit serde)

variable {serde : SerdeJson}

theorem Edits.single {env after : Environment} (edit : Edit serde env after) :
    Edits serde env after :=
  Relation.ReflTransGen.single edit

theorem Edits.preserve (Inv : Environment → Prop)
    (preserved : ∀ env after, Edit serde env after → Inv env → Inv after)
    {env after : Environment} (edits : Edits serde env after) (holds : Inv env) : Inv after := by
  induction edits with
  | refl => exact holds
  | tail _ edit ih => exact preserved _ _ edit ih

theorem assertEntriesAllReady_ok {env : Environment} {entries : List TrafficSplitEntry}
    (admitted : assertEntriesAllReady env entries = .ok ()) : AllReady env entries := by
  induction entries with
  | nil => intro entry member; cases member
  | cons head rest ih =>
      simp only [assertEntriesAllReady] at admitted
      split at admitted
      · cases admitted
      rename_i revision present
      split at admitted
      · cases admitted
      rename_i ready
      intro entry member
      rcases List.mem_cons.mp member with rfl | later
      · exact ⟨revision, present, not_not.mp ready⟩
      · exact ih admitted entry later

theorem checkEntriesOwned_ok {env : Environment} {deploymentId : DeploymentId}
    {entries : List TrafficSplitEntry}
    (checked : checkEntriesOwned env deploymentId entries = .ok ()) :
    AllOwned env deploymentId entries := by
  induction entries with
  | nil => intro entry member; cases member
  | cons head rest ih =>
      simp only [checkEntriesOwned] at checked
      split at checked
      · cases checked
      rename_i revision present
      split at checked
      · cases checked
      rename_i own
      intro entry member
      rcases List.mem_cons.mp member with rfl | later
      · exact ⟨revision, present, not_not.mp own⟩
      · exact ih checked entry later

theorem decodeSplit_stashInline {split : TrafficSplit} {value : serde.Value}
    (encoded : serde.split.toValue split = .ok value) :
    decodeSplit serde (stashInline serde value) = some split := by
  simp [decodeSplit, loadInline_stashInline, serde.split.fromValue_toValue _ _ encoded,
    Except.toOption]

theorem persist_applyTrafficSplit {env : Environment} {payload : SetTrafficSplitPayload}
    {key : IdempotencyKey} {now : DateTime} {deployment : BundleDeployment}
    {found : Option (Located TrafficSplit)}
    (deployed : env.bundles.find? (fun b => b.deploymentId = payload.deploymentId) =
      some deployment)
    (owned : AllOwned env payload.deploymentId payload.entries)
    (located : locate (fun s => s.deploymentId = payload.deploymentId) env.trafficSplits =
      found) :
    Edits serde env (persistMutated (·.mutated) env
      (applyTrafficSplit serde env payload key now deployment.bundleId found)) := by
  simp only [applyTrafficSplit]
  split
  · exact .refl
  rename_i admitted
  have ready := assertEntriesAllReady_ok admitted
  split
  · exact .refl
  rename_i generation token previousGeneration state
  split
  · exact .refl
  rename_i valid
  have weights := TrafficSplit.validate_ok valid
  simp only [persistMutated, TrafficSplitTransition.mutated, Option.isSome_some, if_true]
  cases found with
  | none =>
      simp only [nextSplitState, Option.map_none, Except.ok.injEq, Prod.mk.injEq] at state
      obtain ⟨rfl, rfl, rfl⟩ := state
      refine .single (.openSplit deployment _ deployed rfl owned ready weights rfl ?_)
      intro s member
      simpa using locate_eq_none.mp located s member
  | some found =>
      simp only [nextSplitState, Option.map_some] at state
      split at state
      · cases state
      rename_i value encoded
      cases state
      exact .single (.replaceSplit deployment _ _ found deployed rfl owned ready weights rfl
        (decodeSplit_stashInline encoded) located)

theorem persist_setTrafficSplit (env : Environment) (payload : SetTrafficSplitPayload)
    (key : IdempotencyKey) (now : DateTime) :
    Edits serde env
      (persistMutated (·.mutated) env (setTrafficSplit serde env payload key now)) := by
  simp only [setTrafficSplit]
  split
  · exact .refl
  rename_i deployment deployed
  split
  · exact .refl
  rename_i checked
  have owned := checkEntriesOwned_ok checked
  split
  · rename_i located
    exact persist_applyTrafficSplit deployed owned located
  rename_i found located
  split
  · -- A repeated key is a replay or an error; neither is persisted.
    split
    · exact .refl
    · exact .refl
  · exact persist_applyTrafficSplit deployed owned located

theorem persist_rollbackTrafficSplit (env : Environment) (deploymentId : DeploymentId)
    (now : DateTime) :
    Edits serde env (persistOk env (rollbackTrafficSplit serde env deploymentId now)) := by
  simp only [rollbackTrafficSplit]
  split
  · exact .refl
  rename_i found located
  split
  · exact .refl
  rename_i token stashed
  split
  · exact .refl
  rename_i value loaded
  split
  · exact .refl
  rename_i snapshot decoded
  split
  · exact .refl
  rename_i valid
  split
  · exact .refl
  rename_i admitted
  have decodes : decodeSplit serde token = some snapshot := by
    simp [decodeSplit, loaded, decoded, Except.toOption]
  exact .single (.restoreSplit deploymentId snapshot _ token found located stashed decodes rfl rfl
    rfl rfl (assertEntriesAllReady_ok admitted) (TrafficSplit.validate_ok valid))

theorem takeSplit_edits (env : Environment) (deploymentId : DeploymentId) :
    Edits serde env (takeSplit env deploymentId).2 := by
  unfold takeSplit
  split
  · exact .refl
  · rename_i found located
    exact .single (.dropSplit deploymentId found located)

theorem persist_clearTrafficSplit (env : Environment) (deploymentId : DeploymentId) :
    Edits serde env (persistMutated (·.mutated) env (clearTrafficSplit env deploymentId)) := by
  simp only [clearTrafficSplit]
  split
  · exact .refl
  split
  · exact .refl
  simp only [persistMutated]
  split
  · exact takeSplit_edits env deploymentId
  · exact .refl

/-- Pinning a policy reference leaves every deployment its keys. -/
theorem pinRevenuePolicyRef_edits (env : Environment) (index : Nat) (policyRef : PathBuf) :
    Edits serde env (pinRevenuePolicyRef env index policyRef) := by
  refine .single (.patch _ ?_)
  apply List.ext_getElem?
  intro i
  simp only [List.getElem?_map, List.getElem?_modify]
  cases env.bundles[i]? with
  | none => rfl
  | some b => by_cases same : index = i <;> simp [same]

theorem persist_addBundle (ext : Externals) (env : Environment) (payload : AddBundlePayload)
    (deploymentId : DeploymentId) (now : DateTime) (policyRef : PathBuf) :
    Edits serde env (persist serde ext env (.addBundle payload deploymentId now policyRef)) := by
  simp only [persist, addBundle]
  split
  · rename_i index after added
    split at added
    · cases added
    rename_i vacant
    cases added
    refine .trans (.single (.deploy _ ?_)) (pinRevenuePolicyRef_edits _ _ _)
    intro b member same
    apply vacant
    simp only [List.any_eq_true]
    exact ⟨b, member, by simpa using same⟩
  · exact .refl

theorem replace_bundle_edits {env : Environment} {deploymentId : DeploymentId}
    {found : Located BundleDeployment} (bundle : BundleDeployment)
    (located : locate (fun b => b.deploymentId = deploymentId) env.bundles = some found)
    (sameKeys : (bundle.deploymentId, bundle.bundleId, bundle.customerId) =
      (found.hit.deploymentId, found.hit.bundleId, found.hit.customerId)) :
    Edits serde env { env with bundles := found.replace bundle } :=
  .single (.patch _ (Located.map_replace located
    (fun b => (b.deploymentId, b.bundleId, b.customerId)) sameKeys))

theorem persist_updateBundle (ext : Externals) (env : Environment)
    (payload : UpdateBundlePayload) (policyRef : PathBuf) :
    Edits serde env (persist serde ext env (.updateBundle payload policyRef)) := by
  simp only [persist, updateBundle]
  split
  · rename_i applied after updated
    split at updated
    · cases updated
    rename_i found located
    cases updated
    have patched : Edits serde env _ :=
      replace_bundle_edits (patchBundle payload found.hit) located rfl
    split
    · exact patched.trans (pinRevenuePolicyRef_edits _ _ _)
    · exact patched
  · exact .refl

theorem persist_removeBundle (env : Environment) (deploymentId : DeploymentId) :
    Edits serde env (persistOk env (removeBundle env deploymentId)) := by
  simp only [removeBundle]
  split
  · exact .refl
  rename_i found located
  split
  · exact .refl
  rename_i idle
  refine .single (.undeploy deploymentId found located ?_)
  intro split_ member same
  apply idle
  left
  exact List.countP_pos_iff.mpr ⟨split_, member, by simpa using same⟩

theorem persist_beginRetire (env : Environment) (deploymentId : DeploymentId) :
    Edits serde env (persistMutated (·.mutated) env (beginRetire env deploymentId)) := by
  simp only [beginRetire]
  split
  · exact .refl
  simp only [deploymentIndex]
  cases located : locate (fun b => b.deploymentId = deploymentId) env.bundles with
  | none => exact .refl
  | some found =>
      simp only [persistMutated]
      split
      · exact (replace_bundle_edits { found.hit with status := .archived } located rfl).trans
          (takeSplit_edits _ deploymentId)
      · exact .refl

theorem findEndpointIdx_ok {env : Environment} {endpointId : MessagingEndpointId}
    {found : Located MessagingEndpoint} (located : findEndpointIdx env endpointId = .ok found) :
    locate (fun e => e.endpointId = endpointId) env.messagingEndpoints = some found := by
  unfold findEndpointIdx at located
  split at located
  · cases located
  · cases located
    assumption

theorem stamped_edits {env : Environment} {endpointId : MessagingEndpointId}
    {found : Located MessagingEndpoint} (endpoint : MessagingEndpoint)
    (updatedBy op key : String) (now : DateTime)
    (located : findEndpointIdx env endpointId = .ok found)
    (sameProvider : (endpoint.providerType, endpoint.providerId) =
      (found.hit.providerType, found.hit.providerId))
    (links : LinksSound found.hit → LinksSound endpoint) :
    Edits serde env { env with
      messagingEndpoints := found.replace (stampMutation endpoint updatedBy op key now) } :=
  .single (.editEndpoint endpointId found _ (findEndpointIdx_ok located) sameProvider links)

theorem persist_addMessagingEndpoint (ext : Externals) (env : Environment)
    (payload : AddMessagingEndpointPayload) (endpointId : MessagingEndpointId)
    (key : IdempotencyKey) (now : DateTime) (provision : Provision) :
    Edits serde env (persistMutated (·.mutated) env
      (addMessagingEndpoint ext env payload endpointId key now provision)) := by
  simp only [addMessagingEndpoint]
  split
  · split
    · exact .refl
    · exact .refl
  split
  · exact .refl
  rename_i vacant
  split
  · exact .refl
  split
  · exact .refl
  refine .single (.addEndpoint _ ?_ ⟨List.nodup_nil, nofun⟩)
  intro e member same
  apply vacant
  simp only [List.any_eq_true]
  exact ⟨e, member, by simpa using same⟩

theorem persist_linkMessagingBundle (env : Environment) (endpointId : MessagingEndpointId)
    (bundleId : BundleId) (updatedBy : String) (key : IdempotencyKey) (now : DateTime) :
    Edits serde env (persistMutated (·.mutated) env
      (linkMessagingBundle env endpointId bundleId updatedBy key now)) := by
  simp only [linkMessagingBundle]
  split
  · exact .refl
  rename_i found located
  split
  · exact .refl
  split
  · exact .refl
  rename_i unlinked
  refine stamped_edits _ _ _ _ _ located rfl ?_
  rintro ⟨distinct, welcomed⟩
  refine ⟨List.nodup_append_comm.mp (List.nodup_cons.mpr ⟨unlinked, distinct⟩), ?_⟩
  intro welcome set
  exact List.mem_append_left _ (welcomed welcome set)

theorem persist_unlinkMessagingBundle (env : Environment) (endpointId : MessagingEndpointId)
    (bundleId : BundleId) (updatedBy : String) (key : IdempotencyKey) (now : DateTime) :
    Edits serde env (persistMutated (·.mutated) env
      (unlinkMessagingBundle env endpointId bundleId updatedBy key now)) := by
  simp only [unlinkMessagingBundle]
  split
  · exact .refl
  rename_i found located
  split
  · exact .refl
  rename_i link linked
  split
  · exact .refl
  rename_i unowned
  refine stamped_edits _ _ _ _ _ located rfl ?_
  rintro ⟨distinct, welcomed⟩
  obtain ⟨shape, matched, -⟩ := locate_eq_some linked
  refine ⟨distinct.sublist (Located.remove_sublist linked), ?_⟩
  intro welcome set
  have owned : found.hit.welcomeFlow = some welcome := set
  -- Only the unlinked bundle leaves the list, and the welcome flow is not its.
  have other : welcome.bundleId ≠ link.hit := by
    intro same
    apply unowned
    have hit : link.hit = bundleId := by simpa using matched
    simp only [owned, Option.any_some, same, hit, decide_true]
  have member := welcomed welcome owned
  rw [shape] at member
  simpa [Located.remove, other] using member

theorem persist_setMessagingWelcomeFlow (env : Environment)
    (payload : SetMessagingWelcomeFlowPayload) (key : IdempotencyKey) (now : DateTime) :
    Edits serde env (persistMutated (·.mutated) env
      (setMessagingWelcomeFlow env payload key now)) := by
  simp only [setMessagingWelcomeFlow]
  split
  · exact .refl
  rename_i found located
  split
  · exact .refl
  rename_i linked
  split
  · exact .refl
  split
  · exact .refl
  refine stamped_edits _ _ _ _ _ located rfl ?_
  rintro ⟨distinct, -⟩
  refine ⟨distinct, ?_⟩
  intro welcome set
  cases set
  exact not_not.mp linked

theorem persist_removeMessagingEndpoint (env : Environment) (endpointId : MessagingEndpointId) :
    Edits serde env (removeMessagingEndpoint env endpointId).2 := by
  unfold removeMessagingEndpoint
  split
  · rename_i found located
    exact .single (.dropEndpoint endpointId found located)
  · exact .refl

theorem persist_rotateMessagingWebhookSecret (ext : Externals) (env : Environment)
    (endpointId : MessagingEndpointId) (updatedBy : String) (key : IdempotencyKey)
    (now : DateTime) (newRef : Option String) (provision : Provision) :
    Edits serde env (persistMutated (·.mutated) env
      (rotateMessagingWebhookSecret ext env endpointId updatedBy key now newRef provision)) := by
  simp only [rotateMessagingWebhookSecret]
  split
  · exact .refl
  rename_i found located
  split
  · exact .refl
  split
  · exact .refl
  exact stamped_edits _ _ _ _ _ located rfl fun links => links

def Verb.rebinds : Verb → Bool
  | .mergeBindings .. => true
  | .addPackBinding .. => true
  | .updatePackBinding .. => true
  | .removePackBinding .. => true
  | .rollbackPackBinding .. => true
  | .addExtensionBinding .. => true
  | .updateExtensionBinding .. => true
  | .removeExtensionBinding .. => true
  | .rollbackExtensionBinding .. => true
  | _ => false

/-- No verb of the binding groups touches anything but the two collections. -/
theorem persist_rebound (ext : Externals) (env : Environment) (verb : Verb)
    (rebinds : verb.rebinds = true) :
    persist serde ext env verb = { env with
      packs := (persist serde ext env verb).packs
      extensions := (persist serde ext env verb).extensions } := by
  cases verb with
  | mergeBindings packs extensions =>
      simp only [persist, mergeBindings]
      rw [mergeExtensions_frame, mergePacks_frame]
  | addPackBinding binding =>
      simp only [persist, addPackBinding]
      repeat' split
      all_goals rfl
  | updatePackBinding slot binding =>
      simp only [persist, updatePackBinding]
      split
      · rfl
      rcases (packKind serde slot).update_cases env binding with ⟨e, refused⟩ | ⟨_, _, _, -, -, -, -, done⟩
      · rw [refused]
        rfl
      · rw [done]
        rfl
  | removePackBinding slot =>
      simp only [persist, removePackBinding]
      repeat' split
      all_goals rfl
  | rollbackPackBinding slot =>
      simp only [persist, rollbackPackBinding]
      rcases (packKind serde slot).rollback_cases env with ⟨e, refused⟩ | ⟨_, _, _, _, _, -, -, -, -, -, done⟩
      · rw [refused]
        rfl
      · rw [done]
        rfl
  | addExtensionBinding binding =>
      simp only [persist, addExtensionBinding]
      repeat' split
      all_goals rfl
  | updateExtensionBinding key binding =>
      simp only [persist, updateExtensionBinding]
      rcases (extensionKind serde key).update_cases env binding with ⟨e, refused⟩ | ⟨_, _, _, -, -, -, -, done⟩
      · rw [refused]
        rfl
      · rw [done]
        rfl
  | removeExtensionBinding key =>
      simp only [persist, removeExtensionBinding]
      repeat' split
      all_goals rfl
  | rollbackExtensionBinding key =>
      simp only [persist, rollbackExtensionBinding]
      rcases (extensionKind serde key).rollback_cases env with ⟨e, refused⟩ | ⟨_, _, _, _, _, -, -, -, -, -, done⟩
      · rw [refused]
        rfl
      · rw [done]
        rfl
  | _ => cases rebinds

theorem rebind_edits (ext : Externals) (env : Environment) (verb : Verb)
    (rebinds : verb.rebinds = true) : Edits serde env (persist serde ext env verb) := by
  rw [persist_rebound ext env verb rebinds]
  exact .single (.rebind _ _)

theorem persist_edits (ext : Externals) (env : Environment) (verb : Verb) :
    Edits serde env (persist serde ext env verb) := by
  cases verb with
  | updateEnvironment patch => exact .single (.describe _ _)
  | stageRevision payload now => exact .single (.revision (persist_stage env payload now))
  | warmRevision payload now => exact .single (.revision (persist_warm env payload now))
  | drainRevision id => exact .single (.revision (persist_drain env id))
  | archiveRevision id => exact .single (.revision (persist_archive env id))
  | setTrafficSplit payload key now => exact persist_setTrafficSplit env payload key now
  | rollbackTrafficSplit id now => exact persist_rollbackTrafficSplit env id now
  | clearTrafficSplit id => exact persist_clearTrafficSplit env id
  | addBundle payload id now policyRef => exact persist_addBundle ext env payload id now policyRef
  | updateBundle payload policyRef => exact persist_updateBundle ext env payload policyRef
  | removeBundle id => exact persist_removeBundle env id
  | beginRetire id => exact persist_beginRetire env id
  | addMessagingEndpoint payload id key now provision =>
      exact persist_addMessagingEndpoint ext env payload id key now provision
  | linkMessagingBundle id bundleId updatedBy key now =>
      exact persist_linkMessagingBundle env id bundleId updatedBy key now
  | unlinkMessagingBundle id bundleId updatedBy key now =>
      exact persist_unlinkMessagingBundle env id bundleId updatedBy key now
  | setMessagingWelcomeFlow payload key now =>
      exact persist_setMessagingWelcomeFlow env payload key now
  | removeMessagingEndpoint id => exact persist_removeMessagingEndpoint env id
  | rotateMessagingWebhookSecret id updatedBy key now newRef provision =>
      exact persist_rotateMessagingWebhookSecret ext env id updatedBy key now newRef provision
  | _ => exact rebind_edits ext env _ rfl

theorem persist_environmentId (serde : SerdeJson) (ext : Externals) (env : Environment)
    (verb : Verb) : (persist serde ext env verb).environmentId = env.environmentId := by
  refine (persist_edits ext env verb).preserve (fun after => after.environmentId = env.environmentId)
    ?_ rfl
  intro before after edit same
  cases edit with
  | revision edit => cases edit <;> exact same
  | _ => exact same

end GreenticDeployer.Engine
