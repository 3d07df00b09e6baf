import GreenticDeployer.Engine.Uniqueness

/-!
# What each group of verbs leaves alone

A verb of a group rewrites the collections of its group and nothing else of the
document. What the deployments and the revisions go through is then a matter of
the few verbs that own them.
-/

set_option maxHeartbeats 200000

namespace GreenticDeployer.Engine

open Spec Lib

variable {serde : SerdeJson}

/-- What holds of the stored state and of the state a verb leaves holds of the
one its persist rule keeps. -/
theorem persistOk_of {ε τ : Type} {env : Environment} {outcome : Outcome ε τ}
    (P : Environment → Prop) (stored : P env) (left : P outcome.2) : P (persistOk env outcome) := by
  obtain ⟨result, after⟩ := outcome
  cases result with
  | error e => exact stored
  | ok value => exact left

theorem persistMutated_of {ε τ : Type} {mutated : τ → Bool} {env : Environment}
    {outcome : Outcome ε τ} (P : Environment → Prop) (stored : P env) (left : P outcome.2) :
    P (persistMutated mutated env outcome) := by
  obtain ⟨result, after⟩ := outcome
  cases result with
  | error e => exact stored
  | ok value =>
      simp only [persistMutated]
      split
      · exact left
      · exact stored

def Verb.reroutes : Verb → Bool
  | .setTrafficSplit .. => true
  | .rollbackTrafficSplit .. => true
  | .clearTrafficSplit .. => true
  | _ => false

theorem takeSplit_frame (env : Environment) (deploymentId : DeploymentId) :
    (takeSplit env deploymentId).2 =
      { env with trafficSplits := (takeSplit env deploymentId).2.trafficSplits } := by
  unfold takeSplit
  split <;> rfl

theorem persist_rerouted (ext : Externals) (env : Environment) (verb : Verb)
    (reroutes : verb.reroutes = true) :
    persist serde ext env verb =
      { env with trafficSplits := (persist serde ext env verb).trafficSplits } := by
  cases verb with
  | setTrafficSplit payload key now =>
      refine persistMutated_of
        (fun after => after = { env with trafficSplits := after.trafficSplits }) rfl ?_
      simp only [setTrafficSplit, applyTrafficSplit]
      repeat' split
      all_goals rfl
  | rollbackTrafficSplit id now =>
      refine persistOk_of
        (fun after => after = { env with trafficSplits := after.trafficSplits }) rfl ?_
      simp only [rollbackTrafficSplit]
      repeat' split
      all_goals rfl
  | clearTrafficSplit id =>
      refine persistMutated_of
        (fun after => after = { env with trafficSplits := after.trafficSplits }) rfl ?_
      simp only [clearTrafficSplit]
      repeat' split
      all_goals first
        | rfl
        | exact takeSplit_frame env id
  | _ => cases reroutes

def Verb.relinks : Verb → Bool
  | .addMessagingEndpoint .. => true
  | .linkMessagingBundle .. => true
  | .unlinkMessagingBundle .. => true
  | .setMessagingWelcomeFlow .. => true
  | .removeMessagingEndpoint .. => true
  | .rotateMessagingWebhookSecret .. => true
  | _ => false

theorem persist_relinked (ext : Externals) (env : Environment) (verb : Verb)
    (relinks : verb.relinks = true) :
    persist serde ext env verb =
      { env with messagingEndpoints := (persist serde ext env verb).messagingEndpoints } := by
  cases verb with
  | addMessagingEndpoint payload id key now provision =>
      refine persistMutated_of
        (fun after => after = { env with messagingEndpoints := after.messagingEndpoints }) rfl ?_
      simp only [addMessagingEndpoint]
      repeat' split
      all_goals rfl
  | linkMessagingBundle id bundleId updatedBy key now =>
      refine persistMutated_of
        (fun after => after = { env with messagingEndpoints := after.messagingEndpoints }) rfl ?_
      simp only [linkMessagingBundle]
      repeat' split
      all_goals rfl
  | unlinkMessagingBundle id bundleId updatedBy key now =>
      refine persistMutated_of
        (fun after => after = { env with messagingEndpoints := after.messagingEndpoints }) rfl ?_
      simp only [unlinkMessagingBundle]
      repeat' split
      all_goals rfl
  | setMessagingWelcomeFlow payload key now =>
      refine persistMutated_of
        (fun after => after = { env with messagingEndpoints := after.messagingEndpoints }) rfl ?_
      simp only [setMessagingWelcomeFlow]
      repeat' split
      all_goals rfl
  | removeMessagingEndpoint id =>
      simp only [persist, removeMessagingEndpoint]
      split <;> rfl
  | rotateMessagingWebhookSecret id updatedBy key now newRef provision =>
      refine persistMutated_of
        (fun after => after = { env with messagingEndpoints := after.messagingEndpoints }) rfl ?_
      simp only [rotateMessagingWebhookSecret]
      repeat' split
      all_goals rfl
  | _ => cases relinks

def Verb.leavesBundles : Verb → Bool
  | .updateEnvironment _ => true
  | verb => verb.rebinds || verb.reroutes || verb.relinks

def Verb.leavesRevisions : Verb → Bool
  | .addBundle .. => true
  | .updateBundle .. => true
  | .beginRetire _ => true
  | verb => verb.leavesBundles

/-- The verbs that add, change or begin to retire a deployment. -/
def Verb.redeploys : Verb → Bool
  | .addBundle .. => true
  | .updateBundle .. => true
  | .beginRetire _ => true
  | _ => false

theorem persist_redeployed (ext : Externals) (env : Environment) (verb : Verb)
    (redeploys : verb.redeploys = true) :
    persist serde ext env verb =
      { env with bundles := (persist serde ext env verb).bundles,
                 trafficSplits := (persist serde ext env verb).trafficSplits } := by
  cases verb with
  | addBundle payload id now policyRef =>
      simp only [persist, addBundle]
      split
      · rename_i added
        split at added
        · cases added
        · cases added
          rfl
      · rfl
  | updateBundle payload policyRef =>
      simp only [persist, updateBundle]
      cases locate (fun b => b.deploymentId = payload.deploymentId) env.bundles with
      | none => rfl
      | some found =>
          dsimp only
          split <;> rfl
  | beginRetire id =>
      refine persistMutated_of (fun after => after =
        { env with bundles := after.bundles, trafficSplits := after.trafficSplits }) rfl ?_
      simp only [beginRetire, takeSplit]
      repeat' split
      all_goals rfl
  | _ => cases redeploys

theorem persist_described (ext : Externals) (env : Environment) (verb : Verb)
    (leaves : verb.leavesBundles = true) :
    (persist serde ext env verb).bundles = env.bundles ∧
      (persist serde ext env verb).revisions = env.revisions := by
  by_cases rebinds : verb.rebinds = true
  · rw [persist_rebound ext env verb rebinds]
    exact ⟨rfl, rfl⟩
  by_cases reroutes : verb.reroutes = true
  · rw [persist_rerouted ext env verb reroutes]
    exact ⟨rfl, rfl⟩
  by_cases relinks : verb.relinks = true
  · rw [persist_relinked ext env verb relinks]
    exact ⟨rfl, rfl⟩
  cases verb with
  | updateEnvironment patch => exact ⟨rfl, rfl⟩
  | _ => simp_all [Verb.leavesBundles]

theorem persist_bundles (ext : Externals) (env : Environment) (verb : Verb)
    (leaves : verb.leavesBundles = true) : (persist serde ext env verb).bundles = env.bundles :=
  (persist_described ext env verb leaves).1

theorem persist_revisions (ext : Externals) (env : Environment) (verb : Verb)
    (leaves : verb.leavesRevisions = true) :
    (persist serde ext env verb).revisions = env.revisions := by
  by_cases plain : verb.leavesBundles = true
  · exact (persist_described ext env verb plain).2
  by_cases redeploys : verb.redeploys = true
  · rw [persist_redeployed ext env verb redeploys]
  cases verb with
  | addBundle => exact absurd rfl redeploys
  | updateBundle => exact absurd rfl redeploys
  | beginRetire => exact absurd rfl redeploys
  | _ => exact absurd leaves plain

end GreenticDeployer.Engine
