import GreenticDeployer.Lib.Results
import GreenticDeployer.Lib.Sessions
import GreenticDeployer.Engine.Accounts

/-!
# Keyed deploys on the local store

A deploy adds the deployment where it is new, stages a revision, warms it and routes all
traffic to it, one store verb after the other. A deploy whose key is in the current
split of its deployment is taken for a retry and answered without a change.
-/

set_option maxHeartbeats 200000

namespace GreenticDeployer.Local

open Spec Lib Engine

inductive DeployError where
  | invalidArgument (message : String)
  | io (detail : String)
  | routeBindingDiffers (bundleId : BundleId)
  | spec (error : SpecError)
  | bundle (error : BundleError)
  | revision (error : RevisionLifecycleError)
  | traffic (error : TrafficSplitError)
  deriving DecidableEq

/-- What may go wrong around a verb: before the save, or after it. -/
structure Trouble where
  refused : Option DeployError
  lost : Option DeployError

def noTrouble : Trouble := ⟨none, none⟩

variable (serde : SerdeJson) (ext : Externals)

/-- Load, apply, save. The save validates, and keeps what the persist rule keeps. -/
def storeVerb {τ : Type} (trouble : Trouble) (verb : Verb)
    (verdict : Environment → Except DeployError τ) : Session Environment DeployError τ :=
  .act fun env =>
    match trouble.refused, env.validate ext, verdict env with
    | some e, _, _ => (.error e, env)
    | none, .error e, _ => (.error (.spec e), env)
    | none, .ok (), .error e => (.error e, env)
    | none, .ok (), .ok result =>
      match (persist serde ext env verb).validate ext, trouble.lost with
      | .error e, _ => (.error (.spec e), env)
      | .ok (), some e => (.error e, persist serde ext env verb)
      | .ok (), none => (.ok result, persist serde ext env verb)

def bundlesAdd (trouble : Trouble) (payload : AddBundlePayload) (deploymentId : DeploymentId)
    (now : DateTime) (policyRef : PathBuf) : Session Environment DeployError Nat :=
  storeVerb serde ext trouble (.addBundle payload deploymentId now policyRef) fun env =>
    (addBundle env payload deploymentId now).1.mapError .bundle

def bundlesUpdate (trouble : Trouble) (payload : UpdateBundlePayload) (policyRef : PathBuf) :
    Session Environment DeployError BundleUpdateApplied :=
  storeVerb serde ext trouble (.updateBundle payload policyRef) fun env =>
    (updateBundle env payload).1.mapError .bundle

def revisionsStage (trouble : Trouble) (payload : StageRevisionPayload) (now : DateTime) :
    Session Environment DeployError Revision :=
  storeVerb serde ext trouble (.stageRevision payload now) fun env =>
    (stageRevision env payload now).1.mapError .revision

def revisionsWarm (trouble : Trouble) (payload : WarmRevisionPayload) (now : DateTime) :
    Session Environment DeployError RevisionTransition :=
  storeVerb serde ext trouble (.warmRevision payload now) fun env =>
    (warmRevision env payload now).1.mapError .revision

def trafficSet (trouble : Trouble) (payload : SetTrafficSplitPayload) (key : IdempotencyKey)
    (now : DateTime) : Session Environment DeployError TrafficSplitTransition :=
  storeVerb serde ext trouble (.setTrafficSplit payload key now) fun env =>
    (setTrafficSplit serde env payload key now).1.mapError .traffic

def trafficRollback (trouble : Trouble) (deploymentId : DeploymentId) (now : DateTime) :
    Session Environment DeployError TrafficRollbackTransition :=
  storeVerb serde ext trouble (.rollbackTrafficSplit deploymentId now) fun env =>
    (rollbackTrafficSplit serde env deploymentId now).1.mapError .traffic

/-- The payload after the argument checks: the bundle id trimmed, the customer
resolved. -/
structure DeployPayload where
  bundleId : BundleId
  customerId : CustomerId
  bundleSourceUri : Option String
  runtimeImageDigest : Option String
  configOverrides : Option ConfigOverrides
  idempotencyKey : Option String
  routeBinding : Option RouteBinding
  revenueShare : Option (List RevenueShareEntry)

structure StagedBundle where
  bundleDigest : String
  packList : List PackListEntry
  packListLockRef : PathBuf
  packConfigRefs : List PathBuf

inductive DeployStep where
  | add | stage | warm | update | route
  deriving DecidableEq

/-- A call of `deploy`, with the outcome of its argument checks and what it is given on
its way: ids, the clock, the policy artifact, the bundle, and trouble. -/
structure DeployCall where
  payload : DeployPayload
  checks : Except DeployError Unit
  deploymentId : DeploymentId
  revisionId : RevisionId
  policyRef : PathBuf
  staged : StagedBundle
  now : DateTime
  trouble : DeployStep → Trouble

/-- The revision id is absent where the split has no entry; it prints as empty. -/
structure DeploySummary where
  deploymentId : DeploymentId
  revisionId : Option RevisionId
  reusedDeployment : Bool
  supersededRevisions : List RevisionId
  deriving DecidableEq

def findExistingDeployment (env : Environment) (bundleId : BundleId) (customerId : CustomerId) :
    Option BundleDeployment :=
  env.bundles.find? fun b => b.bundleId = bundleId ∧ b.customerId = customerId

def keyedSplit (env : Environment) (deploymentId : DeploymentId) (key : String) :
    Option TrafficSplit :=
  env.trafficSplits.find? fun s => s.deploymentId = deploymentId ∧ s.idempotencyKey = key

def idempotentDeployReplay (env : Environment) (existing : Option BundleDeployment)
    (idempotencyKey : Option String) : Option (DeploymentId × Option RevisionId) :=
  match idempotencyKey, existing with
  | some key, some b =>
    (keyedSplit env b.deploymentId key).map fun split =>
      (b.deploymentId, split.entries.head?.map (·.revisionId))
  | _, _ => none

def ensureRouteBindingUnchanged (existing : Option BundleDeployment)
    (requested : Option RouteBinding) : Except DeployError Unit :=
  match existing, requested with
  | some b, some want =>
    if want ≠ b.routeBinding then .error (.routeBindingDiffers b.bundleId) else .ok ()
  | _, _ => .ok ()

def supersededRevisions (env : Environment) (deploymentId : DeploymentId) : List RevisionId :=
  ((env.trafficSplits.find? fun s => s.deploymentId = deploymentId).map fun s =>
    s.entries.map (·.revisionId)).getD []

def defaultRevenueShare : List RevenueShareEntry := [⟨⟨"greentic"⟩, 10000⟩]

def fullTrafficBps : UInt32 := 10000

def rolloutKey (call : DeployCall) (deploymentId : DeploymentId) : String :=
  call.payload.idempotencyKey.getD ("deploy:" ++ String.ofList deploymentId.ulid.toChars ++ ":" ++
    call.revisionId.toString)

def addPayload (call : DeployCall) : AddBundlePayload where
  bundleId := call.payload.bundleId
  packName := none
  customerId := call.payload.customerId
  revenueShare := call.payload.revenueShare.getD defaultRevenueShare
  routeBinding := some (call.payload.routeBinding.getD defaultRouteBinding)
  authorizationRef := some "auth.json"
  configOverrides := call.payload.configOverrides.getD BTreeMap.empty

def stagePayload (call : DeployCall) (deploymentId : DeploymentId) : StageRevisionPayload where
  revisionId := call.revisionId
  deploymentId := deploymentId
  bundleDigest := call.staged.bundleDigest
  bundleSourceUri := call.payload.bundleSourceUri
  packList := call.staged.packList
  packListLockRef := call.staged.packListLockRef
  packConfigRefs := call.staged.packConfigRefs
  configDigest := "sha256:00"
  signatureSidecarRef := "rev.sig"
  drainSeconds := 30
  runtimeImageDigest := call.payload.runtimeImageDigest

def overridesPayload (deploymentId : DeploymentId) (overrides : ConfigOverrides) :
    UpdateBundlePayload :=
  ⟨deploymentId, none, none, none, none, some overrides⟩

def cutOver (call : DeployCall) (deploymentId : DeploymentId) : SetTrafficSplitPayload :=
  ⟨deploymentId, [⟨call.revisionId, fullTrafficBps⟩], "operator", some "auth.json"⟩

def resolveDeployment (call : DeployCall) (existing : Option BundleDeployment) :
    Session Environment DeployError DeploymentId :=
  match existing with
  | some b => pure b.deploymentId
  | none => do
    let _ ← bundlesAdd serde ext (call.trouble .add) (addPayload call) call.deploymentId call.now
      call.policyRef
    pure call.deploymentId

def replaceOverrides (call : DeployCall) (reused : Bool) (deploymentId : DeploymentId) :
    Session Environment DeployError PUnit :=
  match reused, call.payload.configOverrides with
  | true, some overrides => do
    let _ ← bundlesUpdate serde ext (call.trouble .update)
      (overridesPayload deploymentId overrides) call.policyRef
    pure ⟨⟩
  | _, _ => pure ⟨⟩

def route (call : DeployCall) (deploymentId : DeploymentId) :
    Session Environment DeployError PUnit :=
  if given : trim (rolloutKey call deploymentId) ≠ [] then do
    let _ ← trafficSet serde ext (call.trouble .route) (cutOver call deploymentId)
      ⟨rolloutKey call deploymentId, given⟩ call.now
    pure ⟨⟩
  else .lift (.error (.invalidArgument "idempotency_key"))

/-- Stage, warm, replace the overrides and cut over. The gate of the warm is a no-op, and
its expected lifecycle the one just read. -/
def rollOut (call : DeployCall) (reused : Bool) (deploymentId : DeploymentId) :
    Session Environment DeployError PUnit := do
  let staged ← revisionsStage serde ext (call.trouble .stage) (stagePayload call deploymentId)
    call.now
  let _ ← revisionsWarm serde ext (call.trouble .warm)
    ⟨call.revisionId, .ok (), staged.lifecycle⟩ call.now
  replaceOverrides serde ext call reused deploymentId
  route serde ext call deploymentId

def deployFresh (call : DeployCall) (env : Environment) (existing : Option BundleDeployment) :
    Session Environment DeployError DeploySummary := do
  .lift (ensureRouteBindingUnchanged existing call.payload.routeBinding)
  let deploymentId ← resolveDeployment serde ext call existing
  rollOut serde ext call existing.isSome deploymentId
  pure ⟨deploymentId, some call.revisionId, existing.isSome,
    (existing.map fun b => supersededRevisions env b.deploymentId).getD []⟩

def loadEnvironment : Session Environment DeployError Environment :=
  .act fun env => ((env.validate ext).mapError .spec |>.map fun _ => env, env)

def deploy (call : DeployCall) : Session Environment DeployError DeploySummary := do
  .lift call.checks
  let env ← loadEnvironment ext
  let existing := findExistingDeployment env call.payload.bundleId call.payload.customerId
  match idempotentDeployReplay env existing call.payload.idempotencyKey with
  | some (deploymentId, revisionId) => pure ⟨deploymentId, revisionId, true, []⟩
  | none => deployFresh serde ext call env existing

inductive LocalCall where
  | deploy (call : DeployCall)
  | trafficSet (trouble : Trouble) (payload : SetTrafficSplitPayload) (key : IdempotencyKey)
      (now : DateTime)
  | trafficRollback (trouble : Trouble) (deploymentId : DeploymentId) (now : DateTime)

def localDeploys : System Environment LocalCall where
  step := fun env call =>
    match call with
    | .deploy call => ((deploy serde ext call).on env).2
    | .trafficSet trouble payload key now =>
      ((trafficSet serde ext trouble payload key now).on env).2
    | .trafficRollback trouble deploymentId now =>
      ((trafficRollback serde ext trouble deploymentId now).on env).2
  allowed := fun _ _ => True

structure Routes (env : Environment) (payload : DeployPayload) (key : String)
    (deploymentId : DeploymentId) (revisionId : RevisionId) : Prop where
  keyed : payload.idempotencyKey = some key
  deployed : (findExistingDeployment env payload.bundleId payload.customerId).map
    (·.deploymentId) = some deploymentId
  split : ∃ split, env.trafficSplits.find? (fun s => s.deploymentId = deploymentId) = some split ∧
    split.idempotencyKey = key ∧ split.entries = [⟨revisionId, fullTrafficBps⟩]

def StillRouted (env : Environment) (key : String) (deploymentId : DeploymentId)
    (revisionId : RevisionId) : Prop :=
  ∃ split, keyedSplit env deploymentId key = some split ∧
    split.entries.head?.map (·.revisionId) = some revisionId

variable {serde} {ext}

theorem storeVerb_cases {τ : Type} (trouble : Trouble) (verb : Verb)
    (verdict : Environment → Except DeployError τ) (env : Environment) :
    ((storeVerb serde ext trouble verb verdict).on env).2 = env ∨
      ((storeVerb serde ext trouble verb verdict).on env).2 = persist serde ext env verb ∧
        (persist serde ext env verb).validate ext = .ok () := by
  simp only [storeVerb, Session.on_act]
  split
  · exact .inl rfl
  · exact .inl rfl
  · exact .inl rfl
  · split
    · exact .inl rfl
    · rename_i valid _
      exact .inr ⟨rfl, valid⟩
    · rename_i valid _
      exact .inr ⟨rfl, valid⟩

theorem storeVerb_ok {τ : Type} {trouble : Trouble} {verb : Verb}
    {verdict : Environment → Except DeployError τ} {env after : Environment} {result : τ}
    (ran : (storeVerb serde ext trouble verb verdict).on env = (.ok result, after)) :
    verdict env = .ok result ∧ after = persist serde ext env verb := by
  simp only [storeVerb, Session.on_act] at ran
  split at ran
  · cases ran
  · cases ran
  · cases ran
  · rename_i accepted
    split at ran
    · cases ran
    · cases ran
    · cases ran
      exact ⟨accepted, rfl⟩

def deploymentKey (b : BundleDeployment) : DeploymentId × BundleId × CustomerId :=
  (b.deploymentId, b.bundleId, b.customerId)

/-- Deployments keep their keys and places, no revision goes, and a valid environment
stays valid. -/
structure Grows (ext : Externals) (env after : Environment) : Prop where
  keys : env.bundles.map deploymentKey <+: after.bundles.map deploymentKey
  revisions : env.revisions.length ≤ after.revisions.length
  valid : env.validate ext = .ok () → after.validate ext = .ok ()

theorem Grows.refl (env : Environment) : Grows ext env env := ⟨List.prefix_rfl, le_rfl, id⟩

theorem Grows.trans {first second third : Environment} (early : Grows ext first second)
    (late : Grows ext second third) : Grows ext first third :=
  ⟨early.keys.trans late.keys, early.revisions.trans late.revisions,
    fun valid => late.valid (early.valid valid)⟩

theorem Grows.pure {α : Type} (a : α) :
    Session.Moves (Grows ext) (Pure.pure a : Session Environment DeployError α) :=
  Session.Moves.pure Grows.refl a

theorem Grows.lift {α : Type} (outcome : Except DeployError α) :
    Session.Moves (Grows ext) (Session.lift outcome) :=
  Session.Moves.lift Grows.refl outcome

theorem Grows.bind {α β : Type} {x : Session Environment DeployError α}
    {f : α → Session Environment DeployError β} (first : Session.Moves (Grows ext) x)
    (later : ∀ a, Session.Moves (Grows ext) (f a)) : Session.Moves (Grows ext) (x >>= f) := by
  have trans : ∀ env between after : Environment, Grows ext env between →
      Grows ext between after → Grows ext env after := fun _ _ _ => Grows.trans
  exact Session.Moves.bind trans first later

theorem map_modify_key (bundles : List BundleDeployment) (index : Nat) (policyRef : PathBuf) :
    (bundles.modify index fun b => { b with revenuePolicyRef := policyRef }).map deploymentKey =
      bundles.map deploymentKey := by
  induction bundles generalizing index with
  | nil => simp
  | cons head tail ih =>
      cases index with
      | zero => simp [deploymentKey]
      | succ index => simp [ih]

theorem persist_added_keys {env : Environment} {payload : AddBundlePayload} {id : DeploymentId}
    {now : DateTime} {index : Nat} (policyRef : PathBuf)
    (accepted : (addBundle env payload id now).1 = .ok index) :
    (persist serde ext env (.addBundle payload id now policyRef)).bundles.map deploymentKey =
      env.bundles.map deploymentKey ++ [(id, payload.bundleId, payload.customerId)] := by
  unfold addBundle at accepted
  split at accepted
  · cases accepted
  · rename_i vacant
    simp only [persist, addBundle, if_neg vacant, pinRevenuePolicyRef, map_modify_key,
      List.map_append, List.map_cons, List.map_nil]
    rfl

theorem persist_add_keys (env : Environment) (payload : AddBundlePayload) (id : DeploymentId)
    (now : DateTime) (policyRef : PathBuf) :
    env.bundles.map deploymentKey <+:
      (persist serde ext env (.addBundle payload id now policyRef)).bundles.map deploymentKey := by
  simp only [persist, addBundle]
  split
  · rename_i index after added
    split at added
    · cases added
    · cases added
      simp only [pinRevenuePolicyRef, map_modify_key, List.map_append]
      exact List.prefix_append _ _
  · exact List.prefix_rfl

theorem persist_update_keys (env : Environment) (payload : UpdateBundlePayload)
    (policyRef : PathBuf) :
    (persist serde ext env (.updateBundle payload policyRef)).bundles.map deploymentKey =
      env.bundles.map deploymentKey := by
  simp only [persist, updateBundle]
  cases located : locate (fun b => b.deploymentId = payload.deploymentId) env.bundles with
  | none => rfl
  | some found =>
      have patched : (found.replace (patchBundle payload found.hit)).map deploymentKey =
          env.bundles.map deploymentKey := Located.map_replace located deploymentKey rfl
      dsimp only
      split
      · simp only [pinRevenuePolicyRef, map_modify_key]
        exact patched
      · exact patched

/-- The verbs a local deploy, a traffic set and a rollback go through. -/
def Rolls : Verb → Bool
  | .addBundle .. | .updateBundle .. | .stageRevision .. | .warmRevision ..
  | .setTrafficSplit .. | .rollbackTrafficSplit .. => true
  | _ => false

theorem revisionEdit_length {id : RevisionId} {env after : Environment}
    (edit : RevisionEdit id env after) : env.revisions.length ≤ after.revisions.length := by
  cases edit with
  | keep => exact le_rfl
  | stage deployment revision => simp
  | advance found new bundles located sameId =>
      have same := congrArg List.length (Located.map_replace located (·.revisionId) sameId)
      simp only [List.length_map] at same
      exact same.ge

theorem persist_keys (env : Environment) {verb : Verb} (rolls : Rolls verb = true) :
    env.bundles.map deploymentKey <+: (persist serde ext env verb).bundles.map deploymentKey := by
  have same : ∀ after : Environment, after.bundles.map deploymentKey = env.bundles.map deploymentKey →
      env.bundles.map deploymentKey <+: after.bundles.map deploymentKey := by
    intro after equal
    exact equal ▸ List.prefix_rfl
  cases verb with
  | addBundle payload id now policyRef => exact persist_add_keys env payload id now policyRef
  | updateBundle payload policyRef => exact same _ (persist_update_keys env payload policyRef)
  | stageRevision payload now =>
      exact same _ ((persist_stage env payload now).map_bundles fun _ _ => rfl)
  | warmRevision payload now =>
      exact same _ ((persist_warm env payload now).map_bundles fun _ _ => rfl)
  | setTrafficSplit payload key now =>
      exact same _ (congrArg (List.map deploymentKey) (persist_bundles ext env _ rfl))
  | rollbackTrafficSplit id now =>
      exact same _ (congrArg (List.map deploymentKey) (persist_bundles ext env _ rfl))
  | _ => cases rolls

theorem persist_length (env : Environment) {verb : Verb} (rolls : Rolls verb = true) :
    env.revisions.length ≤ (persist serde ext env verb).revisions.length := by
  have same : ∀ after : Environment, after.revisions = env.revisions →
      env.revisions.length ≤ after.revisions.length := by
    intro after equal
    rw [equal]
  cases verb with
  | addBundle payload id now policyRef => exact same _ (persist_revisions ext env _ rfl)
  | updateBundle payload policyRef => exact same _ (persist_revisions ext env _ rfl)
  | stageRevision payload now => exact revisionEdit_length (persist_stage env payload now)
  | warmRevision payload now => exact revisionEdit_length (persist_warm env payload now)
  | setTrafficSplit payload key now => exact same _ (persist_revisions ext env _ rfl)
  | rollbackTrafficSplit id now => exact same _ (persist_revisions ext env _ rfl)
  | _ => cases rolls

theorem storeVerb_grows {τ : Type} {trouble : Trouble} {verb : Verb}
    {verdict : Environment → Except DeployError τ} (rolls : Rolls verb = true) :
    Session.Moves (Grows ext) (storeVerb serde ext trouble verb verdict) := by
  intro env
  rcases storeVerb_cases trouble verb verdict env with same | ⟨moved, valid⟩
  · rw [same]
    exact .refl env
  · rw [moved]
    exact ⟨persist_keys env rolls, persist_length env rolls, fun _ => valid⟩

section Deploy

variable (call : DeployCall)

theorem resolveDeployment_grows (existing : Option BundleDeployment) :
    Session.Moves (Grows ext) (resolveDeployment serde ext call existing) := by
  cases existing with
  | some b => exact Grows.pure _
  | none => exact Grows.bind (storeVerb_grows rfl) fun _ => Grows.pure _

theorem replaceOverrides_grows (reused : Bool) (deploymentId : DeploymentId) :
    Session.Moves (Grows ext) (replaceOverrides serde ext call reused deploymentId) := by
  unfold replaceOverrides
  split
  · exact Grows.bind (storeVerb_grows rfl) fun _ => Grows.pure _
  · exact Grows.pure _

theorem route_grows (deploymentId : DeploymentId) :
    Session.Moves (Grows ext) (route serde ext call deploymentId) := by
  unfold route
  split
  · exact Grows.bind (storeVerb_grows rfl) fun _ => Grows.pure _
  · exact Grows.lift _

theorem rollOut_grows (reused : Bool) (deploymentId : DeploymentId) :
    Session.Moves (Grows ext) (rollOut serde ext call reused deploymentId) := by
  refine Grows.bind (storeVerb_grows rfl) fun staged => ?_
  refine Grows.bind (storeVerb_grows rfl) fun _ => ?_
  exact Grows.bind (replaceOverrides_grows call reused deploymentId) fun _ =>
    route_grows call deploymentId

theorem deployFresh_grows (env : Environment) (existing : Option BundleDeployment) :
    Session.Moves (Grows ext) (deployFresh serde ext call env existing) := by
  refine Grows.bind (Grows.lift _) fun _ => ?_
  refine Grows.bind (resolveDeployment_grows call existing) fun deploymentId => ?_
  exact Grows.bind (rollOut_grows call _ deploymentId) fun _ => Grows.pure _

theorem deploy_grows : Session.Moves (Grows ext) (deploy serde ext call) := by
  refine Grows.bind (Grows.lift _) fun _ => ?_
  refine Grows.bind (fun env => .refl env) fun env => ?_
  dsimp only
  split
  · exact Grows.pure _
  · exact deployFresh_grows call env _

theorem rollOut_stages {reused : Bool} {deploymentId : DeploymentId} {env after : Environment}
    {u : PUnit} (ran : (rollOut serde ext call reused deploymentId).on env = (.ok u, after)) :
    env.revisions.length < after.revisions.length := by
  obtain ⟨staged, first, stage, later⟩ := Session.on_bind_ok.mp ran
  obtain ⟨accepted, rfl⟩ := storeVerb_ok stage
  have rest : Session.Moves (Grows ext) (do
      let _ ← revisionsWarm serde ext (call.trouble .warm)
        ⟨call.revisionId, .ok (), staged.lifecycle⟩ call.now
      replaceOverrides serde ext call reused deploymentId
      route serde ext call deploymentId) :=
    Grows.bind (storeVerb_grows rfl) fun _ =>
      Grows.bind (replaceOverrides_grows call reused deploymentId) fun _ =>
        route_grows call deploymentId
  have grown := (rest.ok later).revisions
  have one : (persist serde ext env (.stageRevision (stagePayload call deploymentId)
      call.now)).revisions.length = env.revisions.length + 1 := by
    have success := mapError_ok accepted
    simp only [persist, persistRevision]
    simp only [stageRevision] at success ⊢
    split at success
    · cases success
    rename_i fresh
    rw [if_neg fresh]
    split at success
    · cases success
    · rename_i deployment found
      simp
  omega

theorem deployFresh_stages {env after : Environment} {existing : Option BundleDeployment}
    {summary : DeploySummary}
    (ran : (deployFresh serde ext call env existing).on env = (.ok summary, after)) :
    env.revisions.length < after.revisions.length := by
  obtain ⟨_, checked, guard, ran⟩ := Session.on_bind_ok.mp ran
  obtain ⟨-, rfl⟩ := Prod.mk.inj guard
  obtain ⟨deploymentId, resolved, resolve, ran⟩ := Session.on_bind_ok.mp ran
  obtain ⟨_, rolled, roll, finish⟩ := Session.on_bind_ok.mp ran
  cases finish
  have before := ((resolveDeployment_grows call existing).ok resolve).revisions
  exact before.trans_lt (rollOut_stages call roll)

end Deploy

theorem findExisting_key (env : Environment) (bundleId : BundleId) (customerId : CustomerId) :
    (findExistingDeployment env bundleId customerId).map (·.deploymentId) =
      ((env.bundles.map deploymentKey).find? fun k => k.2.1 = bundleId ∧ k.2.2 = customerId).map
        (·.1) := by
  simp only [findExistingDeployment, List.find?_map, Option.map_map]
  rfl

theorem findExisting_of_grows {env after : Environment} {bundleId : BundleId}
    {customerId : CustomerId} {deploymentId : DeploymentId} (grows : Grows ext env after)
    (found : (findExistingDeployment env bundleId customerId).map (·.deploymentId) =
      some deploymentId) :
    (findExistingDeployment after bundleId customerId).map (·.deploymentId) =
      some deploymentId := by
  rw [findExisting_key] at found ⊢
  obtain ⟨key, there, same⟩ := Option.map_eq_some_iff.mp found
  obtain ⟨more, shape⟩ := grows.keys
  rw [← shape, List.find?_append, there]
  exact congrArg some same

theorem entries_of_entriesMatch {entries : List TrafficSplitEntry} {entry : TrafficSplitEntry}
    (same : entriesMatch entries [entry] = true) : entries = [entry] := by
  simp only [entriesMatch, List.length_singleton, decide_eq_true_eq] at same
  obtain ⟨length, sorted⟩ := same
  obtain ⟨only, rfl⟩ := List.length_eq_one_iff.mp length
  simp only [List.map_cons, List.map_nil, List.insertionSort_cons, List.insertionSort_nil,
    List.orderedInsert_nil, List.cons.injEq, Prod.mk.injEq, and_true] at sorted
  obtain ⟨id, weight⟩ := sorted
  cases only
  cases entry
  simp_all

theorem find?_written {splits : List TrafficSplit} {deploymentId : DeploymentId}
    {found : Option (Located TrafficSplit)} {split : TrafficSplit}
    (located : locate (fun s => s.deploymentId = deploymentId) splits = found)
    (own : split.deploymentId = deploymentId) :
    (match found with
      | some found => found.replace split
      | none => splits ++ [split]).find? (fun s => s.deploymentId = deploymentId) = some split := by
  cases found with
  | none =>
      have absent : splits.find? (fun s => s.deploymentId = deploymentId) = none := by
        rw [find?_eq_locate, located]
        rfl
      simp [List.find?_append, absent, own]
  | some hit => exact Located.find?_replace located (decide_eq_true own)

theorem applyTrafficSplit_writes {env after : Environment} {payload : SetTrafficSplitPayload}
    {key : IdempotencyKey} {now : DateTime} {bundleId : BundleId}
    {found : Option (Located TrafficSplit)} {transition : TrafficSplitTransition}
    (located : locate (fun s => s.deploymentId = payload.deploymentId) env.trafficSplits = found)
    (ran : applyTrafficSplit serde env payload key now bundleId found = (.ok transition, after)) :
    transition.mutated = true ∧ ∃ split,
      after.trafficSplits.find? (fun s => s.deploymentId = payload.deploymentId) = some split ∧
      split.idempotencyKey = key.asStr ∧ split.entries = payload.entries := by
  unfold applyTrafficSplit at ran
  split at ran
  · cases ran
  split at ran
  · cases ran
  dsimp only at ran
  split at ran
  · cases ran
  cases ran
  exact ⟨rfl, _, find?_written located rfl, rfl, rfl⟩

/-- The split that a successful cut-over leaves, replayed or not. -/
theorem setTrafficSplit_routes {env : Environment} {payload : SetTrafficSplitPayload}
    {key : IdempotencyKey} {now : DateTime} {entry : TrafficSplitEntry}
    {transition : TrafficSplitTransition} (single : payload.entries = [entry])
    (ran : (setTrafficSplit serde env payload key now).1 = .ok transition) :
    ∃ split, (persist serde ext env (.setTrafficSplit payload key now)).trafficSplits.find?
        (fun s => s.deploymentId = payload.deploymentId) = some split ∧
      split.idempotencyKey = key.asStr ∧ split.entries = [entry] := by
  have written : ∀ {bundleId found after},
      locate (fun s => s.deploymentId = payload.deploymentId) env.trafficSplits = found →
      setTrafficSplit serde env payload key now =
        applyTrafficSplit serde env payload key now bundleId found →
      applyTrafficSplit serde env payload key now bundleId found = (.ok transition, after) →
      ∃ split, (persist serde ext env (.setTrafficSplit payload key now)).trafficSplits.find?
          (fun s => s.deploymentId = payload.deploymentId) = some split ∧
        split.idempotencyKey = key.asStr ∧ split.entries = [entry] := by
    intro bundleId found after located applies done
    obtain ⟨mutated, split, there, keyed, entries⟩ := applyTrafficSplit_writes located done
    refine ⟨split, ?_, keyed, entries.trans single⟩
    rw [persist, applies, done]
    simpa [persistMutated, mutated] using there
  cases deployed : env.bundles.find? fun b => b.deploymentId = payload.deploymentId with
  | none =>
      simp only [setTrafficSplit, deployed] at ran
      cases ran
  | some deployment =>
  cases owned : checkEntriesOwned env payload.deploymentId payload.entries with
  | error e =>
      simp only [setTrafficSplit, deployed, owned] at ran
      cases ran
  | ok u =>
  cases located : locate (fun s => s.deploymentId = payload.deploymentId) env.trafficSplits with
  | none =>
      have applies : setTrafficSplit serde env payload key now =
          applyTrafficSplit serde env payload key now deployment.bundleId none := by
        simp only [setTrafficSplit, deployed, owned, located]
      rw [applies] at ran
      exact written located applies (Prod.ext ran rfl)
  | some found =>
      by_cases again : found.hit.idempotencyKey = key.asStr
      · by_cases same : entriesMatch found.hit.entries payload.entries = true
        · have replayed : setTrafficSplit serde env payload key now =
              (.ok ⟨found.hit, none, none⟩, env) := by
            simp only [setTrafficSplit, deployed, owned, located, again, same, if_true]
          refine ⟨found.hit, ?_, again, entries_of_entriesMatch (single ▸ same)⟩
          rw [persist, replayed]
          change env.trafficSplits.find? _ = _
          rw [find?_eq_locate, located]
          rfl
        · simp only [setTrafficSplit, deployed, owned, located, again, same, if_true] at ran
          cases ran
      · have applies : setTrafficSplit serde env payload key now =
            applyTrafficSplit serde env payload key now deployment.bundleId (some found) := by
          simp only [setTrafficSplit, deployed, owned, located, again, if_false]
        rw [applies] at ran
        exact written located applies (Prod.ext ran rfl)

theorem resolveDeployment_ok {call : DeployCall} {env after : Environment}
    {deploymentId : DeploymentId}
    (ran : (resolveDeployment serde ext call
      (findExistingDeployment env call.payload.bundleId call.payload.customerId)).on env =
        (.ok deploymentId, after)) :
    (findExistingDeployment after call.payload.bundleId call.payload.customerId).map
      (·.deploymentId) = some deploymentId := by
  cases existing : findExistingDeployment env call.payload.bundleId call.payload.customerId with
  | some b =>
      rw [existing] at ran
      cases ran
      rw [existing]
      rfl
  | none =>
      rw [existing] at ran
      obtain ⟨index, added, add, finish⟩ := Session.on_bind_ok.mp ran
      cases finish
      obtain ⟨accepted, rfl⟩ := storeVerb_ok add
      have success := mapError_ok accepted
      have vacant : (env.bundles.map deploymentKey).find? (fun k =>
          k.2.1 = call.payload.bundleId ∧ k.2.2 = call.payload.customerId) = none := by
        rw [← Option.map_eq_none_iff (f := fun k => k.1), ← findExisting_key, existing]
        rfl
      rw [findExisting_key, persist_added_keys call.policyRef success, List.find?_append, vacant]
      simp [addPayload]

/-- What the cut-over of a rollout leaves. -/
theorem rollOut_routes {call : DeployCall} {reused : Bool} {deploymentId : DeploymentId}
    {env after : Environment} {u : PUnit}
    (ran : (rollOut serde ext call reused deploymentId).on env = (.ok u, after)) :
    ∃ split, after.trafficSplits.find? (fun s => s.deploymentId = deploymentId) = some split ∧
      split.idempotencyKey = rolloutKey call deploymentId ∧
      split.entries = [⟨call.revisionId, fullTrafficBps⟩] := by
  obtain ⟨staged, first, -, ran⟩ := Session.on_bind_ok.mp ran
  obtain ⟨warmed, second, -, ran⟩ := Session.on_bind_ok.mp ran
  obtain ⟨_, third, -, last⟩ := Session.on_bind_ok.mp ran
  unfold route at last
  split at last
  · rename_i given
    obtain ⟨transition, routed, set, finish⟩ := Session.on_bind_ok.mp last
    cases finish
    obtain ⟨accepted, rfl⟩ := storeVerb_ok set
    exact setTrafficSplit_routes rfl (mapError_ok accepted)
  · cases last

theorem deploy_routes {call : DeployCall} {env after : Environment} {key : String}
    {summary : DeploySummary} (keyed : call.payload.idempotencyKey = some key)
    (fresh : idempotentDeployReplay env
      (findExistingDeployment env call.payload.bundleId call.payload.customerId)
      call.payload.idempotencyKey = none)
    (ran : (deploy serde ext call).on env = (.ok summary, after)) :
    summary.revisionId = some call.revisionId ∧
      Routes after call.payload key summary.deploymentId call.revisionId := by
  obtain ⟨_, checked, check, ran⟩ := Session.on_bind_ok.mp ran
  obtain ⟨-, rfl⟩ := Prod.mk.inj check
  obtain ⟨loaded, still, load, ran⟩ := Session.on_bind_ok.mp ran
  obtain ⟨found, rfl⟩ := Prod.mk.inj load
  have same : loaded = env := by
    cases valid : env.validate ext with
    | error e =>
        rw [valid] at found
        cases found
    | ok u =>
        rw [valid] at found
        cases found
        rfl
  subst same
  simp only [fresh] at ran
  obtain ⟨_, guarded, guard, ran⟩ := Session.on_bind_ok.mp ran
  obtain ⟨-, rfl⟩ := Prod.mk.inj guard
  obtain ⟨deploymentId, resolved, resolve, ran⟩ := Session.on_bind_ok.mp ran
  obtain ⟨_, rolled, roll, finish⟩ := Session.on_bind_ok.mp ran
  cases finish
  obtain ⟨split, there, stamped, entries⟩ := rollOut_routes roll
  refine ⟨rfl, keyed, ?_, split, there, ?_, entries⟩
  · exact findExisting_of_grows ((rollOut_grows call _ deploymentId).ok roll)
      (resolveDeployment_ok resolve)
  · rw [stamped, rolloutKey, keyed]
    rfl

theorem localDeploys_grows (env : Environment) (call : LocalCall) :
    Grows ext env ((localDeploys serde ext).step env call) := by
  cases call with
  | deploy call => exact deploy_grows call env
  | trafficSet trouble payload key now => exact storeVerb_grows rfl env
  | trafficRollback trouble deploymentId now => exact storeVerb_grows rfl env

theorem run_grows (env : Environment) (calls : List LocalCall) :
    Grows ext env ((localDeploys serde ext).run env calls) := by
  induction calls generalizing env with
  | nil => exact .refl env
  | cons call rest ih => exact (localDeploys_grows env call).trans (ih _)

theorem retry_iff {retry : DeployCall} {env : Environment} {key : String}
    {deploymentId : DeploymentId} {revisionId : RevisionId} (valid : env.validate ext = .ok ())
    (keyed : retry.payload.idempotencyKey = some key)
    (deployed : (findExistingDeployment env retry.payload.bundleId retry.payload.customerId).map
      (·.deploymentId) = some deploymentId) :
    (∃ summary, (deploy serde ext retry).on env = (.ok summary, env) ∧
        summary.deploymentId = deploymentId ∧ summary.revisionId = some revisionId) ↔
      retry.checks = .ok () ∧ StillRouted env key deploymentId revisionId := by
  obtain ⟨b, existing, same⟩ := Option.map_eq_some_iff.mp deployed
  subst same
  have replay : idempotentDeployReplay env (some b) (some key) =
      (keyedSplit env b.deploymentId key).map fun split =>
        (b.deploymentId, split.entries.head?.map (·.revisionId)) := rfl
  have loads : (loadEnvironment ext).on env = (.ok env, env) := by
    simp [loadEnvironment, valid, Except.mapError, Except.map]
  constructor
  · rintro ⟨summary, ran, sameDeployment, sameRevision⟩
    obtain ⟨u, checked, check, ran⟩ := Session.on_bind_ok.mp ran
    obtain ⟨checks, rfl⟩ := Prod.mk.inj check
    obtain ⟨loaded, still, load, ran⟩ := Session.on_bind_ok.mp ran
    rw [loads] at load
    cases load
    simp only [existing, keyed, replay] at ran
    refine ⟨checks, ?_⟩
    cases split : keyedSplit env b.deploymentId key with
    | some split' =>
        simp only [split, Option.map_some] at ran
        cases ran
        exact ⟨split', split, sameRevision⟩
    | none =>
        simp only [split, Option.map_none] at ran
        exact absurd (deployFresh_stages retry ran) (lt_irrefl _)
  · rintro ⟨checks, split, there, first⟩
    refine ⟨⟨b.deploymentId, some revisionId, true, []⟩, ?_, rfl, rfl⟩
    refine Session.on_bind_ok.mpr ⟨(), env, by rw [checks]; rfl, ?_⟩
    refine Session.on_bind_ok.mpr ⟨env, env, loads, ?_⟩
    simp only [existing, keyed, replay, there, Option.map_some, first]
    rfl

/-- After a deploy of the run that routed a revision under its key, and any calls since, a
retry with that key returns that deployment and revision and changes nothing just if it
passes its argument checks and the split still carries the key and routes there first. -/
theorem keyed_retry_iff (serde : SerdeJson) (ext : Externals) (start : Environment)
    (before after : List LocalCall) (first retry : DeployCall) (key : String)
    (deploymentId : DeploymentId) (revisionId : RevisionId)
    (valid : start.validate ext = .ok ())
    (routed : Routes ((localDeploys serde ext).run start (before ++ [.deploy first])) first.payload
      key deploymentId revisionId)
    (keyed : retry.payload.idempotencyKey = some key)
    (sameBundle : retry.payload.bundleId = first.payload.bundleId)
    (sameCustomer : retry.payload.customerId = first.payload.customerId) :
    let env := (localDeploys serde ext).run start (before ++ [.deploy first] ++ after)
    (∃ summary, (deploy serde ext retry).on env = (.ok summary, env) ∧
        summary.deploymentId = deploymentId ∧ summary.revisionId = some revisionId) ↔
      retry.checks = .ok () ∧ StillRouted env key deploymentId revisionId := by
  have since : Grows ext ((localDeploys serde ext).run start (before ++ [.deploy first]))
      ((localDeploys serde ext).run ((localDeploys serde ext).run start
        (before ++ [.deploy first])) after) := run_grows _ after
  rw [(localDeploys serde ext).run_append]
  refine retry_iff ?_ keyed ?_
  · exact since.valid ((run_grows start _).valid valid)
  · rw [sameBundle, sameCustomer]
    exact findExisting_of_grows since routed.deployed

def operatorSplit : TrafficSplit := { firstSplit with updatedBy := "operator" }

def secondOperatorSplit : TrafficSplit :=
  { operatorSplit with generation := 1, entries := [⟨⟨8⟩, 10000⟩], idempotencyKey := "k2" }

def operatorText : String :=
  "\x7b\"authorization_ref\":\"auth.json\",\"bundle_id\":\"demo\",\"deployment_id\":\"00000000000000000000000001\",\"entries\":[\x7b\"revision_id\":\"00000000000000000000000007\",\"weight_bps\":10000\x7d],\"env_id\":\"local\",\"generation\":0,\"idempotency_key\":\"k1\",\"schema\":\"greentic.traffic-split.v1\",\"updated_at\":\"1970-01-01T00:00:03Z\",\"updated_by\":\"operator\"\x7d"

def secondOperatorText : String :=
  "\x7b\"authorization_ref\":\"auth.json\",\"bundle_id\":\"demo\",\"deployment_id\":\"00000000000000000000000001\",\"entries\":[\x7b\"revision_id\":\"00000000000000000000000008\",\"weight_bps\":10000\x7d],\"env_id\":\"local\",\"generation\":1,\"idempotency_key\":\"k2\",\"schema\":\"greentic.traffic-split.v1\",\"updated_at\":\"1970-01-01T00:00:03Z\",\"updated_by\":\"operator\"\x7d"

/-- The JSON library on the two splits; a value says whether it is the first. -/
def operatorJson : SerdeJson where
  Value := Bool
  toString := fun first => if first then operatorText else secondOperatorText
  fromStr := fun raw =>
    if raw = operatorText then some true
    else if raw = secondOperatorText then some false else none
  fromStr_toString := by
    have distinct : secondOperatorText ≠ operatorText := by
      simp [secondOperatorText, operatorText]
    intro first
    cases first
    · exact (if_neg distinct).trans (if_pos rfl)
    · exact if_pos rfl
  split := {
    toValue := fun split =>
      if split = operatorSplit then .ok true
      else if split = secondOperatorSplit then .ok false else .error "unsupported"
    fromValue := fun first => .ok (if first then operatorSplit else secondOperatorSplit)
    fromValue_toValue := by
      intro split first encoded
      split at encoded
      · cases encoded
        simp_all
      · split at encoded
        · cases encoded
          simp_all
        · cases encoded }
  pack := .refusing _ _
  extension := .refusing _ _

def demoPayload (key : String) : DeployPayload :=
  ⟨⟨"demo"⟩, ⟨"local-dev"⟩, none, none, none, some key, none, none⟩

def demoDeploy (key : String) (revision : Ulid) : DeployCall where
  payload := demoPayload key
  checks := .ok ()
  deploymentId := ⟨1⟩
  revisionId := ⟨revision⟩
  policyRef := "policy.json"
  staged := ⟨"sha256:00", [], "pack-list.lock", []⟩
  now := 3
  trouble := fun _ => noTrouble

def demoRun (calls : List LocalCall) : Environment :=
  (localDeploys operatorJson noExternals).run localFresh calls

theorem demoDeploy_routes :
    Routes (demoRun [.deploy (demoDeploy "k1" 7)]) (demoPayload "k1") "k1" ⟨1⟩ ⟨7⟩ where
  keyed := rfl
  deployed := by decide
  split := ⟨operatorSplit, by decide, rfl, rfl⟩

/-- After a deploy under another key, the retry stages a third revision and takes the
traffic. -/
theorem late_retry_rolls_out :
    Routes (demoRun [.deploy (demoDeploy "k1" 7)]) (demoPayload "k1") "k1" ⟨1⟩ ⟨7⟩ ∧
      ((deploy operatorJson noExternals (demoDeploy "k1" 9)).on
        (demoRun [.deploy (demoDeploy "k1" 7), .deploy (demoDeploy "k2" 8)])).1.toOption =
          some ⟨⟨1⟩, some ⟨9⟩, true, [⟨8⟩]⟩ ∧
      ¬ ∃ summary, (deploy operatorJson noExternals (demoDeploy "k1" 9)).on
          (demoRun [.deploy (demoDeploy "k1" 7), .deploy (demoDeploy "k2" 8)]) =
            (.ok summary, demoRun [.deploy (demoDeploy "k1" 7), .deploy (demoDeploy "k2" 8)]) ∧
        summary.deploymentId = ⟨1⟩ ∧ summary.revisionId = some ⟨7⟩ := by
  have returned : ((deploy operatorJson noExternals (demoDeploy "k1" 9)).on
      (demoRun [.deploy (demoDeploy "k1" 7), .deploy (demoDeploy "k2" 8)])).1.toOption =
        some ⟨⟨1⟩, some ⟨9⟩, true, [⟨8⟩]⟩ := by decide
  refine ⟨demoDeploy_routes, returned, ?_⟩
  rintro ⟨summary, ran, -, revision⟩
  rw [ran] at returned
  cases returned
  cases revision

/-- A retry with nothing in between is answered from the split. -/
theorem prompt_retry_replays :
    ∃ summary, (deploy operatorJson noExternals (demoDeploy "k1" 9)).on
        (demoRun [.deploy (demoDeploy "k1" 7)]) =
          (.ok summary, demoRun [.deploy (demoDeploy "k1" 7)]) ∧
      summary.deploymentId = ⟨1⟩ ∧ summary.revisionId = some ⟨7⟩ := by
  have valid : localFresh.validate noExternals = .ok () := by decide
  exact (keyed_retry_iff operatorJson noExternals localFresh [] [] (demoDeploy "k1" 7)
    (demoDeploy "k1" 9) "k1" ⟨1⟩ ⟨7⟩ valid demoDeploy_routes rfl rfl rfl).mpr
    ⟨rfl, operatorSplit, by decide, rfl⟩

end GreenticDeployer.Local
