import GreenticDeployer.Engine.Routing

/-!
# The persist rule

Outside the environment and the revision group every check of a verb comes
before its one write: a verb that is refused, or that reports a replay or a
no-op, leaves behind the environment it was handed.
-/

set_option maxHeartbeats 200000

namespace GreenticDeployer.Engine

open Spec Lib

/-- What a verb reports about its own write. A verb without a flag counts every
success as a mutation. -/
inductive Report where
  | refused
  | untouched
  | mutated
  deriving DecidableEq, Repr

def reported {ε τ : Type} (mutated : τ → Bool) (outcome : Outcome ε τ) : Report × Environment :=
  match outcome with
  | (.ok result, after) => (if mutated result then .mutated else .untouched, after)
  | (.error _, after) => (.refused, after)

/-- The report of the verb that cannot fail. -/
def reportedFlag (outcome : Bool × Environment) : Report × Environment :=
  (if outcome.1 then .mutated else .untouched, outcome.2)

/-- The groups of the engine, one for each source module. -/
inductive VerbGroup where
  | environments
  | revisions
  | traffic
  | bundles
  | removal
  | messaging
  | bindings
  deriving DecidableEq, Repr

def Verb.group : Verb → VerbGroup
  | .updateEnvironment .. | .mergeBindings .. => .environments
  | .stageRevision .. | .warmRevision .. | .drainRevision .. | .archiveRevision .. => .revisions
  | .setTrafficSplit .. | .rollbackTrafficSplit .. => .traffic
  | .addBundle .. | .updateBundle .. | .removeBundle .. => .bundles
  | .clearTrafficSplit .. | .beginRetire .. => .removal
  | .addMessagingEndpoint .. | .linkMessagingBundle .. | .unlinkMessagingBundle ..
  | .setMessagingWelcomeFlow .. | .removeMessagingEndpoint ..
  | .rotateMessagingWebhookSecret .. => .messaging
  | .addPackBinding .. | .updatePackBinding .. | .removePackBinding .. | .rollbackPackBinding ..
  | .addExtensionBinding .. | .updateExtensionBinding .. | .removeExtensionBinding ..
  | .rollbackExtensionBinding .. => .bindings

/-- The groups without a path that writes and then fails. -/
def VerbGroup.checksFirst : VerbGroup → Bool
  | .environments | .revisions => false
  | .traffic | .bundles | .removal | .messaging | .bindings => true

section

variable (serde : SerdeJson) (ext : Externals)

/-- The call itself, before any persist rule: its report, and the environment
as the verb left it behind the caller's reference. -/
def callVerb (env : Environment) : Verb → Report × Environment
  | .updateEnvironment patch => (.mutated, applyEnvironmentUpdate env patch)
  | .mergeBindings packs extensions => (.mutated, (mergeBindings env packs extensions).2)
  | .stageRevision payload now => reported (fun _ => true) (stageRevision env payload now)
  | .warmRevision payload now => reported (fun _ => true) (warmRevision env payload now)
  | .drainRevision id => reported (fun _ => true) (drainRevision env id)
  | .archiveRevision id => reported (fun _ => true) (archiveRevision env id)
  | .setTrafficSplit payload key now =>
    reported (·.mutated) (setTrafficSplit serde env payload key now)
  | .rollbackTrafficSplit id now =>
    reported (fun _ => true) (rollbackTrafficSplit serde env id now)
  | .clearTrafficSplit id => reported (·.mutated) (clearTrafficSplit env id)
  | .addBundle payload id now _ => reported (fun _ => true) (addBundle env payload id now)
  | .updateBundle payload _ => reported (fun _ => true) (updateBundle env payload)
  | .removeBundle id => reported (fun _ => true) (removeBundle env id)
  | .beginRetire id => reported (·.mutated) (beginRetire env id)
  | .addMessagingEndpoint payload id key now provision =>
    reported (·.mutated) (addMessagingEndpoint ext env payload id key now provision)
  | .linkMessagingBundle id bundleId updatedBy key now =>
    reported (·.mutated) (linkMessagingBundle env id bundleId updatedBy key now)
  | .unlinkMessagingBundle id bundleId updatedBy key now =>
    reported (·.mutated) (unlinkMessagingBundle env id bundleId updatedBy key now)
  | .setMessagingWelcomeFlow payload key now =>
    reported (·.mutated) (setMessagingWelcomeFlow env payload key now)
  | .removeMessagingEndpoint id => reportedFlag (removeMessagingEndpoint env id)
  | .rotateMessagingWebhookSecret id updatedBy key now newRef provision =>
    reported (·.mutated)
      (rotateMessagingWebhookSecret ext env id updatedBy key now newRef provision)
  | .addPackBinding binding => reported (fun _ => true) (addPackBinding env binding)
  | .updatePackBinding slot binding =>
    reported (fun _ => true) (updatePackBinding serde env slot binding)
  | .removePackBinding slot => reported (fun _ => true) (removePackBinding env slot)
  | .rollbackPackBinding slot => reported (fun _ => true) (rollbackPackBinding serde env slot)
  | .addExtensionBinding binding => reported (fun _ => true) (addExtensionBinding env binding)
  | .updateExtensionBinding key binding =>
    reported (fun _ => true) (updateExtensionBinding serde env key binding)
  | .removeExtensionBinding key => reported (fun _ => true) (removeExtensionBinding env key)
  | .rollbackExtensionBinding key =>
    reported (fun _ => true) (rollbackExtensionBinding serde env key)

end

structure Atomic (env : Environment) (call : Report × Environment) : Prop where
  unmutated : call.1 ≠ .mutated → call.2 = env

theorem Atomic.same (env : Environment) (report : Report) : Atomic env (report, env) where
  unmutated := fun _ => rfl

theorem Atomic.wrote (env after : Environment) : Atomic env (.mutated, after) where
  unmutated := fun unmutated => absurd rfl unmutated

theorem reported_ok {ε τ : Type} {mutated : τ → Bool} {result : τ} {after : Environment} :
    (reported mutated ((.ok result, after) : Outcome ε τ)).1 ≠ .mutated ↔
      mutated result = false := by
  cases flag : mutated result <;> simp [reported, flag]

variable {serde : SerdeJson}

theorem applyTrafficSplit_atomic (env : Environment) (payload : SetTrafficSplitPayload)
    (key : IdempotencyKey) (now : DateTime) (bundleId : BundleId)
    (found : Option (Located TrafficSplit)) :
    Atomic env (reported (·.mutated)
      (applyTrafficSplit serde env payload key now bundleId found)) := by
  simp only [applyTrafficSplit]
  split
  · exact .same ..
  split
  · exact .same ..
  split
  · exact .same ..
  · exact .wrote ..

theorem setTrafficSplit_atomic (env : Environment) (payload : SetTrafficSplitPayload)
    (key : IdempotencyKey) (now : DateTime) :
    Atomic env (reported (·.mutated) (setTrafficSplit serde env payload key now)) := by
  simp only [setTrafficSplit]
  split
  · exact .same ..
  split
  · exact .same ..
  split
  · exact applyTrafficSplit_atomic ..
  split
  · split
    · exact .same ..
    · exact .same ..
  · exact applyTrafficSplit_atomic ..

theorem rollbackTrafficSplit_atomic (env : Environment) (id : DeploymentId) (now : DateTime) :
    Atomic env (reported (fun _ => true) (rollbackTrafficSplit serde env id now)) := by
  simp only [rollbackTrafficSplit]
  split
  · exact .same ..
  split
  · exact .same ..
  split
  · exact .same ..
  split
  · exact .same ..
  split
  · exact .same ..
  split
  · exact .same ..
  · exact .wrote ..

theorem takeSplit_none {env : Environment} {id : DeploymentId}
    (absent : (takeSplit env id).1 = none) : (takeSplit env id).2 = env := by
  unfold takeSplit at absent ⊢
  split at absent
  · rfl
  · cases absent

theorem clearTrafficSplit_atomic (env : Environment) (id : DeploymentId) :
    Atomic env (reported (·.mutated) (clearTrafficSplit env id)) := by
  simp only [clearTrafficSplit]
  split
  · exact .same ..
  split
  · exact .same ..
  constructor
  intro unmutated
  have absent := reported_ok.mp unmutated
  apply takeSplit_none
  simpa [ClearTrafficOutcome.mutated] using absent

theorem marked_again {env : Environment} {id : DeploymentId} {found : Located BundleDeployment}
    (located : locate (fun b => b.deploymentId = id) env.bundles = some found)
    (archived : found.hit.status = .archived) :
    found.replace { found.hit with status := .archived } = env.bundles := by
  have shape := (locate_eq_some located).1
  rw [shape, ← archived]
  rfl

theorem deploymentIndex_ok {env : Environment} {id : DeploymentId}
    {found : Located BundleDeployment} (located : deploymentIndex env id = .ok found) :
    locate (fun b => b.deploymentId = id) env.bundles = some found := by
  unfold deploymentIndex at located
  split at located
  · cases located
  · rename_i searched
    cases located
    exact searched

theorem beginRetire_atomic (env : Environment) (id : DeploymentId) :
    Atomic env (reported (·.mutated) (beginRetire env id)) := by
  simp only [beginRetire]
  split
  · exact .same ..
  split
  · exact .same ..
  rename_i found located
  constructor
  intro unmutated
  have quiet : found.hit.status = .archived ∧
      (takeSplit { env with bundles := found.replace { found.hit with status := .archived } }
        id).1 = none := by
    simpa [BeginRetireOutcome.mutated] using reported_ok.mp unmutated
  have unmarked := marked_again (deploymentIndex_ok located) quiet.1
  have left := takeSplit_none quiet.2
  rw [unmarked] at left
  simpa only [reported, unmarked] using left

theorem addBundle_atomic (env : Environment) (payload : AddBundlePayload) (id : DeploymentId)
    (now : DateTime) : Atomic env (reported (fun _ => true) (addBundle env payload id now)) := by
  simp only [addBundle]
  split
  · exact .same ..
  · exact .wrote ..

theorem updateBundle_atomic (env : Environment) (payload : UpdateBundlePayload) :
    Atomic env (reported (fun _ => true) (updateBundle env payload)) := by
  simp only [updateBundle]
  split
  · exact .same ..
  · exact .wrote ..

theorem removeBundle_atomic (env : Environment) (id : DeploymentId) :
    Atomic env (reported (fun _ => true) (removeBundle env id)) := by
  simp only [removeBundle]
  split
  · exact .same ..
  split
  · exact .same ..
  · exact .wrote ..

theorem addMessagingEndpoint_atomic (ext : Externals) (env : Environment)
    (payload : AddMessagingEndpointPayload) (id : MessagingEndpointId) (key : IdempotencyKey)
    (now : DateTime) (provision : Provision) :
    Atomic env (reported (·.mutated)
      (addMessagingEndpoint ext env payload id key now provision)) := by
  simp only [addMessagingEndpoint]
  split
  · split
    · exact .same ..
    · exact .same ..
  split
  · exact .same ..
  split
  · exact .same ..
  split
  · exact .same ..
  · exact .wrote ..

theorem linkMessagingBundle_atomic (env : Environment) (id : MessagingEndpointId)
    (bundleId : BundleId) (updatedBy : String) (key : IdempotencyKey) (now : DateTime) :
    Atomic env (reported (·.mutated)
      (linkMessagingBundle env id bundleId updatedBy key now)) := by
  simp only [linkMessagingBundle]
  split
  · exact .same ..
  split
  · exact .same ..
  split
  · exact .same ..
  · exact .wrote ..

theorem unlinkMessagingBundle_atomic (env : Environment) (id : MessagingEndpointId)
    (bundleId : BundleId) (updatedBy : String) (key : IdempotencyKey) (now : DateTime) :
    Atomic env (reported (·.mutated)
      (unlinkMessagingBundle env id bundleId updatedBy key now)) := by
  simp only [unlinkMessagingBundle]
  split
  · exact .same ..
  split
  · exact .same ..
  split
  · exact .same ..
  · exact .wrote ..

theorem setMessagingWelcomeFlow_atomic (env : Environment)
    (payload : SetMessagingWelcomeFlowPayload) (key : IdempotencyKey) (now : DateTime) :
    Atomic env (reported (·.mutated) (setMessagingWelcomeFlow env payload key now)) := by
  simp only [setMessagingWelcomeFlow]
  split
  · exact .same ..
  split
  · exact .same ..
  split
  · exact .same ..
  split
  · exact .same ..
  · exact .wrote ..

theorem removeMessagingEndpoint_atomic (env : Environment) (id : MessagingEndpointId) :
    Atomic env (reportedFlag (removeMessagingEndpoint env id)) := by
  simp only [removeMessagingEndpoint]
  split
  · exact .wrote ..
  · exact .same ..

theorem rotateMessagingWebhookSecret_atomic (ext : Externals) (env : Environment)
    (id : MessagingEndpointId) (updatedBy : String) (key : IdempotencyKey) (now : DateTime)
    (newRef : Option String) (provision : Provision) :
    Atomic env (reported (·.mutated)
      (rotateMessagingWebhookSecret ext env id updatedBy key now newRef provision)) := by
  simp only [rotateMessagingWebhookSecret]
  split
  · exact .same ..
  split
  · exact .same ..
  split
  · exact .same ..
  · exact .wrote ..

theorem addPackBinding_atomic (env : Environment) (binding : EnvPackBinding) :
    Atomic env (reported (fun _ => true) (addPackBinding env binding)) := by
  simp only [addPackBinding]
  split
  · exact .same ..
  split
  · exact .same ..
  · exact .wrote ..

theorem BindingKind.update_atomic {α : Type} (kind : BindingKind serde α) (env : Environment)
    (binding : α) : Atomic env (reported (fun _ => true) (kind.update env binding)) := by
  rcases kind.update_cases env binding with ⟨e, refused⟩ | ⟨_, _, _, -, -, -, -, done⟩
  · rw [refused]
    exact .same ..
  · rw [done]
    exact .wrote ..

theorem BindingKind.rollback_atomic {α : Type} (kind : BindingKind serde α) (env : Environment) :
    Atomic env (reported (fun _ => true) (kind.rollback env)) := by
  rcases kind.rollback_cases env with ⟨e, refused⟩ | ⟨_, _, _, _, _, -, -, -, -, -, done⟩
  · rw [refused]
    exact .same ..
  · rw [done]
    exact .wrote ..

theorem updatePackBinding_atomic (env : Environment) (slot : CapabilitySlot)
    (binding : EnvPackBinding) :
    Atomic env (reported (fun _ => true) (updatePackBinding serde env slot binding)) := by
  unfold updatePackBinding
  split
  · exact .same ..
  · exact BindingKind.update_atomic ..

theorem removePackBinding_atomic (env : Environment) (slot : CapabilitySlot) :
    Atomic env (reported (fun _ => true) (removePackBinding env slot)) := by
  simp only [removePackBinding]
  split
  · exact .same ..
  · exact .wrote ..

theorem rollbackPackBinding_atomic (env : Environment) (slot : CapabilitySlot) :
    Atomic env (reported (fun _ => true) (rollbackPackBinding serde env slot)) :=
  BindingKind.rollback_atomic ..

theorem addExtensionBinding_atomic (env : Environment) (binding : ExtensionBinding) :
    Atomic env (reported (fun _ => true) (addExtensionBinding env binding)) := by
  simp only [addExtensionBinding]
  split
  · exact .same ..
  · exact .wrote ..

theorem updateExtensionBinding_atomic (env : Environment) (key : ExtensionKey)
    (binding : ExtensionBinding) :
    Atomic env (reported (fun _ => true) (updateExtensionBinding serde env key binding)) :=
  BindingKind.update_atomic ..

theorem removeExtensionBinding_atomic (env : Environment) (key : ExtensionKey) :
    Atomic env (reported (fun _ => true) (removeExtensionBinding env key)) := by
  simp only [removeExtensionBinding]
  split
  · exact .same ..
  · exact .wrote ..

theorem rollbackExtensionBinding_atomic (env : Environment) (key : ExtensionKey) :
    Atomic env (reported (fun _ => true) (rollbackExtensionBinding serde env key)) :=
  BindingKind.rollback_atomic ..

theorem callVerb_atomic (serde : SerdeJson) (ext : Externals) (env : Environment) (verb : Verb)
    (group : verb.group.checksFirst = true) : Atomic env (callVerb serde ext env verb) := by
  cases verb with
  | updateEnvironment => cases group
  | mergeBindings => cases group
  | stageRevision => cases group
  | warmRevision => cases group
  | drainRevision => cases group
  | archiveRevision => cases group
  | setTrafficSplit => exact setTrafficSplit_atomic ..
  | rollbackTrafficSplit => exact rollbackTrafficSplit_atomic ..
  | clearTrafficSplit => exact clearTrafficSplit_atomic ..
  | addBundle => exact addBundle_atomic ..
  | updateBundle => exact updateBundle_atomic ..
  | removeBundle => exact removeBundle_atomic ..
  | beginRetire => exact beginRetire_atomic ..
  | addMessagingEndpoint => exact addMessagingEndpoint_atomic ..
  | linkMessagingBundle => exact linkMessagingBundle_atomic ..
  | unlinkMessagingBundle => exact unlinkMessagingBundle_atomic ..
  | setMessagingWelcomeFlow => exact setMessagingWelcomeFlow_atomic ..
  | removeMessagingEndpoint => exact removeMessagingEndpoint_atomic ..
  | rotateMessagingWebhookSecret => exact rotateMessagingWebhookSecret_atomic ..
  | addPackBinding => exact addPackBinding_atomic ..
  | updatePackBinding => exact updatePackBinding_atomic ..
  | removePackBinding => exact removePackBinding_atomic ..
  | rollbackPackBinding => exact rollbackPackBinding_atomic ..
  | addExtensionBinding => exact addExtensionBinding_atomic ..
  | updateExtensionBinding => exact updateExtensionBinding_atomic ..
  | removeExtensionBinding => exact removeExtensionBinding_atomic ..
  | rollbackExtensionBinding => exact rollbackExtensionBinding_atomic ..

/-- An error leaves the environment as it was, and so does a success that
reports a replay or a no-op: whatever the environment, the verb of the five
groups and its payload. -/
theorem persist_rule_atomic (serde : SerdeJson) (ext : Externals) (env : Environment)
    (verb : Verb) (group : verb.group.checksFirst = true) :
    ((callVerb serde ext env verb).1 = .refused → (callVerb serde ext env verb).2 = env) ∧
    ((callVerb serde ext env verb).1 = .untouched → (callVerb serde ext env verb).2 = env) := by
  have atomic := callVerb_atomic serde ext env verb group
  constructor
  · intro refused
    apply atomic.unmutated
    simp [refused]
  · intro untouched
    apply atomic.unmutated
    simp [untouched]

/-- The call of a routed run again, whose reply is a replay. -/
def repeatedCall : Verb := .setTrafficSplit ⟨⟨1⟩, [⟨⟨7⟩, 10000⟩], "op", none⟩ firstKey 9

/-- A clear of a deployment that is not retiring, and a repeated call. -/
theorem persist_rule_atomic_of_routedRun :
    ∃ env, env = (engine firstSplitJson noExternals).run localFresh (routedRun.take 4) ∧
      env.trafficSplits = [firstSplit] ∧
      (callVerb firstSplitJson noExternals env (.clearTrafficSplit ⟨1⟩)).1 = .refused ∧
      (callVerb firstSplitJson noExternals env (.clearTrafficSplit ⟨1⟩)).2 = env ∧
      (callVerb firstSplitJson noExternals env repeatedCall).1 = .untouched ∧
      (callVerb firstSplitJson noExternals env repeatedCall).2 = env := by
  refine ⟨_, rfl, by decide, ?_⟩
  have refused : (callVerb firstSplitJson noExternals
      ((engine firstSplitJson noExternals).run localFresh (routedRun.take 4))
      (.clearTrafficSplit ⟨1⟩)).1 = .refused := by decide
  have untouched : (callVerb firstSplitJson noExternals
      ((engine firstSplitJson noExternals).run localFresh (routedRun.take 4))
      repeatedCall).1 = .untouched := by decide
  exact ⟨refused, (persist_rule_atomic _ _ _ (.clearTrafficSplit ⟨1⟩) rfl).1 refused,
    untouched, (persist_rule_atomic _ _ _ repeatedCall rfl).2 untouched⟩

theorem persistMutated_atomic {ε τ : Type} {mutated : τ → Bool} {env : Environment}
    {outcome : Outcome ε τ} (atomic : Atomic env (reported mutated outcome)) :
    persistMutated mutated env outcome = (reported mutated outcome).2 := by
  obtain ⟨result, after⟩ := outcome
  cases result with
  | error e => exact (atomic.unmutated (by simp [reported])).symm
  | ok value =>
      cases flag : mutated value with
      | true => simp [persistMutated, reported, flag]
      | false =>
          have left := atomic.unmutated (reported_ok.mpr flag)
          simpa [persistMutated, flag] using left.symm

theorem Atomic.quiet {ε τ : Type} {mutated : τ → Bool} {env after : Environment}
    {outcome : Outcome ε τ} {result : τ} (atomic : Atomic env (reported mutated outcome))
    (applied : outcome = (.ok result, after)) (still : mutated result = false) : after = env := by
  subst applied
  exact atomic.unmutated (reported_ok.mpr still)

theorem Atomic.refused {ε τ : Type} {mutated : τ → Bool} {env after : Environment}
    {outcome : Outcome ε τ} {e : ε} (atomic : Atomic env (reported mutated outcome))
    (failed : outcome = (.error e, after)) : after = env := by
  subst failed
  exact atomic.unmutated (by simp [reported])

/-- What the persist rule keeps of a success. -/
theorem Atomic.kept {ε τ : Type} {mutated : τ → Bool} {env after : Environment}
    {outcome : Outcome ε τ} {result : τ} (atomic : Atomic env (reported mutated outcome))
    (applied : outcome = (.ok result, after)) :
    after = persistMutated mutated env outcome ∧
      (mutated result = false → env = persistMutated mutated env outcome) := by
  have stored := persistMutated_atomic atomic
  subst applied
  refine ⟨stored.symm, ?_⟩
  intro quiet
  simp [persistMutated, quiet]

end GreenticDeployer.Engine
