import GreenticDeployer.Engine.Frames

/-!
# The accounts of the deployments

Whose a deployment is, what it shares and which policy it pins. Two verbs write
accounts; every other one leaves a deployment its account or removes it whole.
-/

set_option maxHeartbeats 200000

namespace GreenticDeployer.Engine

open Spec Lib

structure Account where
  bundleId : BundleId
  customerId : CustomerId
  revenueShare : List RevenueShareEntry
  revenuePolicyRef : PathBuf
  deriving DecidableEq

def accountOf (b : BundleDeployment) : Account :=
  ⟨b.bundleId, b.customerId, b.revenueShare, b.revenuePolicyRef⟩

def accounts (env : Environment) : List Account := env.bundles.map accountOf

/-- Whether a verb, committed without a policy artifact, leaves every
deployment's share and policy reference as they were. -/
def keepsAccounts : Verb → Bool
  | .addBundle .. => false
  | .updateBundle payload _ => payload.revenueShare.isNone
  | _ => true

variable {serde : SerdeJson}

theorem mergeBindings_bundles (env : Environment) (packs : List EnvPackBinding)
    (extensions : List ExtensionBinding) :
    (mergeBindings env packs extensions).2.bundles = env.bundles := by
  simp only [mergeBindings]
  rw [mergeExtensions_frame, mergePacks_frame]

theorem RevisionEdit.map_bundles {κ : Type} {read : BundleDeployment → κ}
    (blind : ∀ b ids, read { b with currentRevisions := ids } = read b) {id : RevisionId}
    {env after : Environment} (edit : RevisionEdit id env after) :
    after.bundles.map read = env.bundles.map read := by
  cases edit with
  | keep => rfl
  | stage => rfl
  | advance found new bundles located sameId sameDeployment sameBundle hop keeps tracking =>
      rcases tracking with rfl | rfl
      · rfl
      · exact untrack_map read blind _ _ _

theorem RevisionEdit.accounts {id : RevisionId} {env after : Environment}
    (edit : RevisionEdit id env after) : accounts after = accounts env :=
  edit.map_bundles fun _ _ => rfl

theorem removeBundle_map {α : Type} (f : BundleDeployment → α) (env : Environment)
    (deploymentId : DeploymentId) :
    (persistOk env (removeBundle env deploymentId)).bundles.map f ⊆ env.bundles.map f := by
  simp only [removeBundle]
  split
  · exact List.Subset.refl _
  rename_i found located
  split
  · exact List.Subset.refl _
  · exact ((Located.remove_sublist located).map f).subset

theorem beginRetire_map {β : Type} (f : BundleDeployment → β)
    (same : ∀ b, f { b with status := .archived } = f b) (env : Environment)
    (deploymentId : DeploymentId) :
    (persistMutated (·.mutated) env (beginRetire env deploymentId)).bundles.map f =
      env.bundles.map f := by
  refine persistMutated_of (fun after => after.bundles.map f = env.bundles.map f) rfl ?_
  simp only [beginRetire, deploymentIndex]
  split
  · rfl
  cases located : locate (fun b => b.deploymentId = deploymentId) env.bundles with
  | none => rfl
  | some found =>
      dsimp only
      rw [takeSplit_frame]
      exact Located.map_replace located f (same found.hit)

theorem updateBundle_accounts (ext : Externals) (env : Environment)
    (payload : UpdateBundlePayload) (policyRef : PathBuf) (shareless : payload.revenueShare = none) :
    accounts (persist serde ext env (.updateBundle payload policyRef)) = accounts env := by
  simp only [persist, updateBundle]
  cases located : locate (fun b => b.deploymentId = payload.deploymentId) env.bundles with
  | none => rfl
  | some found =>
      simp only [shareless, Option.isSome_none, Bool.false_eq_true, if_false]
      refine Located.map_replace located accountOf ?_
      simp only [accountOf, patchBundle, shareless, Option.getD_none]

theorem persist_accounts (ext : Externals) (env : Environment) (verb : Verb)
    (keeps : keepsAccounts verb = true) :
    accounts (persist serde ext env verb) ⊆ accounts env := by
  have same : ∀ after, accounts after = accounts env → accounts after ⊆ accounts env := by
    intro after equal
    rw [equal]
    exact List.Subset.refl _
  by_cases plain : verb.leavesBundles = true
  · exact same _ (congrArg (List.map accountOf) (persist_bundles ext env verb plain))
  cases verb with
  | stageRevision payload now => exact same _ (persist_stage env payload now).accounts
  | warmRevision payload now => exact same _ (persist_warm env payload now).accounts
  | drainRevision id => exact same _ (persist_drain env id).accounts
  | archiveRevision id => exact same _ (persist_archive env id).accounts
  | addBundle payload id now policyRef => cases keeps
  | updateBundle payload policyRef =>
      exact same _ (updateBundle_accounts ext env payload policyRef
        (Option.isNone_iff_eq_none.mp keeps))
  | removeBundle id => exact removeBundle_map accountOf env id
  | beginRetire id => exact same _ (beginRetire_map accountOf (fun _ => rfl) env id)
  | _ => exact absurd rfl plain

theorem persist_customersApart (ext : Externals) (env : Environment) (verb : Verb)
    (apart : CustomersApart env) : CustomersApart (persist serde ext env verb) :=
  (persist_edits ext env verb).preserve CustomersApart (fun _ _ edit => CustomersApart.edit edit)
    apart

end GreenticDeployer.Engine
