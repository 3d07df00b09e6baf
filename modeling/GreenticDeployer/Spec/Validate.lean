import GreenticDeployer.Spec.Documents

/-!
# Document validation

`Environment::validate` and the per-document checks it calls. What the crate
takes from elsewhere (the URI parser, secret references, the size of a JSON
rendering) is an argument, `Externals`.
-/

set_option maxHeartbeats 200000

namespace GreenticDeployer.Spec

inductive SpecError where
  | basisPointsSum (sum : Nat)
  | basisPointsEntryTooLarge (value : UInt32)
  | revenuePolicyVersionZero
  | duplicateCapabilitySlot (slot : CapabilitySlot)
  | schemaMismatch (expected actual : String)
  | envIdMismatch (context : String) (expected actual : EnvId)
  | unknownDeployment (deployment : DeploymentId)
  | unknownRevision (revision : RevisionId)
  | splitRevisionWrongDeployment (revision : RevisionId) (expected actual : DeploymentId)
  | splitRevisionWrongBundle (revision : RevisionId) (expected actual : BundleId)
  | bundleRevisionWrongDeployment (deployment : DeploymentId) (revision : RevisionId)
      (actual : DeploymentId)
  | bundleRevisionWrongBundle (deployment : DeploymentId) (revision : RevisionId)
      (expected actual : BundleId)
  | splitDeploymentBundleMismatch (deployment : DeploymentId)
      (splitBundle deploymentBundle : BundleId)
  | crossEnvRef (context uri : String) (expected : EnvId) (actual : String)
  | duplicateMessagingEndpoint (endpoint : MessagingEndpointId)
  | duplicateProviderInstance (providerType providerId : String)
  | messagingEndpointBundleNotLinked (endpoint : MessagingEndpointId) (bundle : BundleId)
  | welcomeFlowBundleNotLinked (endpoint : MessagingEndpointId) (bundle : BundleId)
  | emptyMessagingProviderId
  | emptyMessagingProviderType
  | emptyWelcomeFlowId
  | duplicateExtension (path : String) (instanceId : Option String)
  | invalidExtensionInstanceId (path reason : String)
  | configOverridesTooManyPacks (count max : Nat)
  | configOverridesTooManyKeysForPack (packId : String) (count max : Nat)
  | configOverridesTooLarge (bytes max : Nat)
  | configOverrideEmptyPackId
  | configOverrideEmptyKey (packId : String)
  | configOverridePackNotInRevisions (deployment : DeploymentId) (packId : String)
  | invalidPublicBaseUrl (value reason : String)
  deriving DecidableEq, Repr

/-- What `http::Uri` reports of a parsed URI. -/
structure Uri where
  scheme : Option String
  authority : Option String
  host : String
  port : Option UInt16
  path : String
  query : Option String

structure Externals where
  parseUri : String → Option Uri
  secretRefTryNew : String → Except String SecretRef
  secretRefEnvSegment : SecretRef → String
  configOverridesLen : ConfigOverrides → Nat

def basisPointsTotal : Nat := 10000

/-- The loop both basis-point checks run: every entry at most the total, and
the running sum exactly the total at the end. -/
def checkBasisPoints : List UInt32 → Nat → Except SpecError Unit
  | [], sum => if sum = basisPointsTotal then .ok () else .error (.basisPointsSum sum)
  | value :: rest, sum =>
    if basisPointsTotal < value.toNat then .error (.basisPointsEntryTooLarge value)
    else checkBasisPoints rest (sum + value.toNat)

theorem checkBasisPoints_ok {values : List UInt32} {sum : Nat}
    (accepted : checkBasisPoints values sum = .ok ()) :
    (∀ value ∈ values, value.toNat ≤ basisPointsTotal) ∧
      sum + (values.map UInt32.toNat).sum = basisPointsTotal := by
  induction values generalizing sum with
  | nil =>
      simp only [checkBasisPoints] at accepted
      split at accepted
      · simp_all
      · cases accepted
  | cons value rest ih =>
      simp only [checkBasisPoints] at accepted
      split at accepted
      · cases accepted
      · rename_i small
        obtain ⟨bounded, total⟩ := ih accepted
        refine ⟨?_, by simp only [List.map_cons, List.sum_cons]; omega⟩
        intro x member
        rcases List.mem_cons.mp member with rfl | later
        · omega
        · exact bounded x later

def checkSchema (expected : String) (actual : SchemaVersion) : Except SpecError Unit :=
  if actual.asStr = expected then .ok () else .error (.schemaMismatch expected actual.asStr)

def TrafficSplit.validate (split : TrafficSplit) : Except SpecError Unit := do
  checkSchema SchemaVersion.trafficSplitV1 split.schema
  checkBasisPoints (split.entries.map (·.weightBps)) 0

theorem TrafficSplit.validate_ok {split : TrafficSplit} (accepted : split.validate = .ok ()) :
    (∀ entry ∈ split.entries, entry.weightBps.toNat ≤ 10000) ∧
      (split.entries.map (·.weightBps.toNat)).sum = 10000 := by
  unfold TrafficSplit.validate at accepted
  cases schema : checkSchema SchemaVersion.trafficSplitV1 split.schema with
  | error e =>
      rw [schema] at accepted
      cases accepted
  | ok _ =>
      rw [schema] at accepted
      obtain ⟨bounded, total⟩ := checkBasisPoints_ok accepted
      simp only [List.mem_map, forall_exists_index, and_imp, forall_apply_eq_imp_iff₂] at bounded
      simp only [List.map_map, Nat.zero_add] at total
      exact ⟨bounded, total⟩

def Revision.validate (revision : Revision) : Except SpecError Unit :=
  checkSchema SchemaVersion.revisionV1 revision.schema

def maxConfigOverridePacks : Nat := 32
def maxConfigOverrideKeysPerPack : Nat := 64
def maxConfigOverrideBytes : Nat := 16 * 1024

def validateConfigOverrides (ext : Externals) (overrides : ConfigOverrides) :
    Except SpecError Unit := do
  if overrides.entries.length > maxConfigOverridePacks then
    throw (.configOverridesTooManyPacks overrides.entries.length maxConfigOverridePacks)
  overrides.entries.forM fun (packId, fields) => do
    if packId = "" then throw .configOverrideEmptyPackId
    if fields.entries.length > maxConfigOverrideKeysPerPack then
      throw (.configOverridesTooManyKeysForPack packId fields.entries.length
        maxConfigOverrideKeysPerPack)
    if "" ∈ fields.keys then throw (.configOverrideEmptyKey packId)
  if ext.configOverridesLen overrides > maxConfigOverrideBytes then
    throw (.configOverridesTooLarge (ext.configOverridesLen overrides) maxConfigOverrideBytes)

def BundleDeployment.validate (ext : Externals) (bundle : BundleDeployment) :
    Except SpecError Unit := do
  checkSchema SchemaVersion.bundleDeploymentV1 bundle.schema
  checkBasisPoints (bundle.revenueShare.map (·.basisPoints)) 0
  validateConfigOverrides ext bundle.configOverrides

def checkSecretEnv (ext : Externals) (context : String) (envId : EnvId) (secret : SecretRef) :
    Except SpecError Unit :=
  if ext.secretRefEnvSegment secret = envId.asStr then .ok ()
  else .error (.crossEnvRef context secret.asStr envId (ext.secretRefEnvSegment secret))

def MessagingEndpoint.validate (ext : Externals) (endpoint : MessagingEndpoint) :
    Except SpecError Unit := do
  checkSchema SchemaVersion.messagingEndpointV1 endpoint.schema
  if trim endpoint.providerId = [] then throw .emptyMessagingProviderId
  if trim endpoint.providerType = [] then throw .emptyMessagingProviderType
  endpoint.secretRefs.forM
    (checkSecretEnv ext "messaging_endpoint.secret_refs" endpoint.envId)
  if let some welcome := endpoint.welcomeFlow then
    if trim welcome.flowId = [] then throw .emptyWelcomeFlowId
  if let some secret := endpoint.webhookSecretRef then
    checkSecretEnv ext "messaging_endpoint.webhook_secret_ref" endpoint.envId secret

def instanceIdCharOk (c : Char) : Bool := c.isLower || c.isDigit || c == '-'

def validateInstanceId (inst : String) : Except String Unit :=
  if inst = "" then .error "extension-ref instance id is empty"
  else match inst.toList.find? fun c => !instanceIdCharOk c with
    | some c =>
      .error ("extension-ref instance id contains invalid character `" ++ String.ofList [c] ++ "`")
    | none => .ok ()

def ExtensionBinding.validate (binding : ExtensionBinding) : Except SpecError Unit :=
  match binding.instanceId with
  | none => .ok ()
  | some inst => match validateInstanceId inst with
    | .ok () => .ok ()
    | .error reason => .error (.invalidExtensionInstanceId binding.kind.path reason)

def validatePublicBaseUrl (ext : Externals) (value : String) : Except SpecError String := do
  let trimmed := String.ofList (trim value)
  let invalid := fun reason => SpecError.invalidPublicBaseUrl trimmed reason
  if trimmed = "" then throw (invalid "must not be empty")
  if trimmed.toList.any isWhitespace then throw (invalid "must not contain whitespace")
  match ext.parseUri trimmed with
  | none => throw (invalid "is not a valid URI")
  | some uri =>
    unless uri.scheme = some "http" ∨ uri.scheme = some "https" do
      throw (invalid "must start with http:// or https://")
    match uri.authority with
    | none => throw (invalid "must include a host")
    | some authority =>
      if '@' ∈ authority.toList then throw (invalid "must not include userinfo")
      if uri.host = "" then throw (invalid "must include a host")
      if authority.utf8ByteSize > uri.host.utf8ByteSize ∧ uri.port = none then
        throw (invalid "port is not a valid number")
      if uri.query.isSome then throw (invalid "must not include a query string")
      if '#' ∈ trimmed.toList then throw (invalid "must not include a fragment")
      unless uri.path = "" ∨ uri.path = "/" do
        throw (invalid "must be an origin without a path")
      return String.ofList (trimmed.toList.reverse.dropWhile (· == '/')).reverse

def checkEnvId (context : String) (env : Environment) (actual : EnvId) : Except SpecError Unit :=
  if actual = env.environmentId then .ok ()
  else .error (.envIdMismatch context env.environmentId actual)

/-- The `seen` loops: the first element whose key occurred earlier is refused. -/
def checkDistinct {α κ : Type} [DecidableEq κ] (key : α → κ) (refuse : α → SpecError) :
    List α → List κ → Except SpecError Unit
  | [], _ => .ok ()
  | head :: rest, seen =>
    if key head ∈ seen then .error (refuse head)
    else checkDistinct key refuse rest (key head :: seen)

namespace Environment

def checkCurrentRevision (env : Environment) (bundle : BundleDeployment) (id : RevisionId) :
    Except SpecError Unit :=
  match env.revisions.find? fun r => r.revisionId = id with
  | none => .error (.unknownRevision id)
  | some referenced =>
    if referenced.deploymentId ≠ bundle.deploymentId then
      .error (.bundleRevisionWrongDeployment bundle.deploymentId id referenced.deploymentId)
    else if referenced.bundleId ≠ bundle.bundleId then
      .error (.bundleRevisionWrongBundle bundle.deploymentId id bundle.bundleId
        referenced.bundleId)
    else .ok ()

def deploymentPackIds (env : Environment) (deployment : DeploymentId) : List String :=
  (env.revisions.filter fun r => r.deploymentId = deployment ∧ r.lifecycle ≠ .archived).flatMap
    fun r => r.packList.map (·.packId.asStr)

def checkBundle (ext : Externals) (env : Environment) (bundle : BundleDeployment) :
    Except SpecError Unit := do
  checkEnvId "bundle_deployment" env bundle.envId
  bundle.validate ext
  bundle.currentRevisions.forM (env.checkCurrentRevision bundle)
  -- An override may be authored before any revision lists a pack.
  unless env.deploymentPackIds bundle.deploymentId = [] do
    bundle.configOverrides.keys.forM fun packId =>
      unless packId ∈ env.deploymentPackIds bundle.deploymentId do
        throw (.configOverridePackNotInRevisions bundle.deploymentId packId)

def checkSplitEntry (env : Environment) (split : TrafficSplit) (entry : TrafficSplitEntry) :
    Except SpecError Unit :=
  match env.revisions.find? fun r => r.revisionId = entry.revisionId with
  | none => .error (.unknownRevision entry.revisionId)
  | some referenced =>
    if referenced.deploymentId ≠ split.deploymentId then
      .error (.splitRevisionWrongDeployment entry.revisionId split.deploymentId
        referenced.deploymentId)
    else if referenced.bundleId ≠ split.bundleId then
      .error (.splitRevisionWrongBundle entry.revisionId split.bundleId referenced.bundleId)
    else .ok ()

def checkSplit (env : Environment) (split : TrafficSplit) : Except SpecError Unit := do
  checkEnvId "traffic_split" env split.envId
  split.validate
  match env.bundles.find? fun b => b.deploymentId = split.deploymentId with
  | none => throw (.unknownDeployment split.deploymentId)
  | some bundle =>
    unless bundle.bundleId = split.bundleId do
      throw (.splitDeploymentBundleMismatch split.deploymentId split.bundleId bundle.bundleId)
  split.entries.forM (env.checkSplitEntry split)

/-- One turn of the endpoint loop, after the endpoints in `earlier`. -/
def checkEndpoint (ext : Externals) (env : Environment) (earlier : List MessagingEndpoint)
    (endpoint : MessagingEndpoint) : Except SpecError Unit := do
  endpoint.validate ext
  checkEnvId "messaging_endpoint" env endpoint.envId
  if endpoint.endpointId ∈ earlier.map (·.endpointId) then
    throw (.duplicateMessagingEndpoint endpoint.endpointId)
  if (endpoint.providerType, endpoint.providerId) ∈
      earlier.map (fun e => (e.providerType, e.providerId)) then
    throw (.duplicateProviderInstance endpoint.providerType endpoint.providerId)
  endpoint.linkedBundles.forM fun bundleId =>
    unless bundleId ∈ env.bundles.map (·.bundleId) do
      throw (.messagingEndpointBundleNotLinked endpoint.endpointId bundleId)
  if let some welcome := endpoint.welcomeFlow then
    unless welcome.bundleId ∈ endpoint.linkedBundles do
      throw (.welcomeFlowBundleNotLinked endpoint.endpointId welcome.bundleId)

def checkEndpoints (ext : Externals) (env : Environment) :
    List MessagingEndpoint → List MessagingEndpoint → Except SpecError Unit
  | [], _ => .ok ()
  | endpoint :: rest, earlier => do
    env.checkEndpoint ext earlier endpoint
    checkEndpoints ext env rest (earlier ++ [endpoint])

/-- One turn of the extension loop, after bindings with the keys in `seen`. -/
def checkExtensions : List ExtensionBinding → List (String × Option String) →
    Except SpecError Unit
  | [], _ => .ok ()
  | binding :: rest, seen => do
    binding.validate
    if (binding.kind.path, binding.instanceId) ∈ seen then
      throw (.duplicateExtension binding.kind.path binding.instanceId)
    checkExtensions rest ((binding.kind.path, binding.instanceId) :: seen)

def validate (ext : Externals) (env : Environment) : Except SpecError Unit := do
  checkSchema SchemaVersion.environmentV1 env.schema
  checkEnvId "host_config" env env.hostConfig.envId
  if let some url := env.hostConfig.publicBaseUrl then
    let _ ← validatePublicBaseUrl ext url
  checkDistinct (·.slot) (fun b => .duplicateCapabilitySlot b.slot) env.packs []
  if let some credentials := env.credentialsRef then
    checkSecretEnv ext "credentials_ref" env.environmentId credentials
  env.revisions.forM fun revision => do
    revision.validate
    checkEnvId "revision" env revision.envId
  env.bundles.forM (env.checkBundle ext)
  env.trafficSplits.forM env.checkSplit
  env.checkEndpoints ext env.messagingEndpoints []
  checkExtensions env.extensions []

end Environment

end GreenticDeployer.Spec
