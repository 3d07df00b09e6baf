import GreenticDeployer.CloudRun.Answers
import GreenticDeployer.Engine.Lifecycle
import GreenticDeployer.Lib.Framed

/-!
# The intent of a Cloud Run revision

A warm hashes what it is about to pin onto its revision. A live revision with the same
stamp is taken for the warm's own, so the stamp has to say everything that the template
says, but for what staging mints.
-/

set_option maxHeartbeats 200000

namespace GreenticDeployer.CloudRun.Intent

open Spec Lib

structure SecretMountItem where
  version : String
  relPath : String
  deriving DecidableEq

structure SecretMount where
  mountDir : String
  secretName : String
  items : List SecretMountItem
  deriving DecidableEq

structure SecretEnvVar where
  name : String
  secretName : String
  version : String
  deriving DecidableEq

structure RevisionTemplate where
  image : String
  runtimeServiceAccount : String
  scaling : ScalingSpec
  sessionAffinity : Bool
  revisionIntent : String
  secrets : List SecretMount
  env : List (String × String)
  secretEnv : List SecretEnvVar
  vpcAccess : Option VpcAccess
  deriving DecidableEq

def seedMountDir : String := "/seed"

def environmentSeedFile : String := "environment.json"

def devStoreRelative : String := ".greentic/dev/.dev.secrets.env"

def runtimeHome : String := "/tmp"

def sessionAffinity : Bool := true

def environmentSecretName (secretPrefix : String) : String := secretPrefix ++ "-environment"

def redisUrlSecretName (secretPrefix : String) : String := secretPrefix ++ "-redis-url"

def runtimeBootEnv (env : Environment) (revision : Revision) (params : GcpCloudRunParams) :
    List (String × String) :=
  [("GREENTIC_ENV", env.environmentId.asStr),
    ("GREENTIC_ENV_ID", env.environmentId.asStr),
    ("GREENTIC_SEED_DIR", seedMountDir),
    ("HOME", runtimeHome),
    ("GREENTIC_GATEWAY_LISTEN_ADDR", "0.0.0.0"),
    ("GREENTIC_REVISION_ID", revision.revisionId.toString),
    ("GREENTIC_DEPLOYMENT_ID", String.ofList revision.deploymentId.ulid.toChars),
    ("GREENTIC_BUNDLE_ID", revision.bundleId.asStr),
    ("GREENTIC_BUNDLE_DIGEST", revision.bundleDigest)] ++
  (params.runtimeTenant.map fun tenant => ("GREENTIC_TENANT", tenant)).toList ++
  (params.runtimeTeam.map fun team => ("GREENTIC_TEAM", team)).toList ++
  params.sharedState.bootEnv ++ params.telemetry.envForRole "worker"

def secretEnvNames (params : GcpCloudRunParams) : List String :=
  (if params.telemetry.headers.isSome then headerEnvNames else []) ++
    params.sharedState.secretEnvNames

structure Pinned where
  image : String
  runtimeServiceAccount : String
  scaling : ScalingSpec
  sessionAffinity : Bool
  secretName : String
  bootEnv : List (String × String)
  secretEnvNames : List String
  deriving DecidableEq

def secretEnvTag : String := "secret-env"

def ScalingSpec.cpuField (scaling : ScalingSpec) : List Octets :=
  if scaling.cpuAlwaysAllocated then [utf8 "cpu-always-allocated"] else []

/-- The fields in the order in which they are hashed. -/
def Pinned.fields (self : Pinned) : List Octets :=
  [utf8 self.image, utf8 self.runtimeServiceAccount, utf8 self.scaling.cpu,
    utf8 self.scaling.memory, littleEndian 4 self.scaling.minInstances.toNat,
    littleEndian 4 self.scaling.maxInstances.toNat,
    littleEndian 4 self.scaling.concurrency.toNat] ++
  self.scaling.cpuField ++
  [[if self.sessionAffinity then 1 else 0], utf8 self.secretName] ++
  (self.bootEnv.flatMap fun entry => [utf8 entry.1, utf8 entry.2]) ++
  self.secretEnvNames.flatMap fun name => [utf8 secretEnvTag, utf8 name]

def VpcTarget.fields : VpcTarget → List Octets
  | connector path => [utf8 "vpc-connector", utf8 path]
  | direct network subnetwork => [utf8 "vpc-direct", utf8 network, utf8 subnetwork]

def vpcFields (intent : String) (vpc : VpcAccess) : List Octets :=
  utf8 intent :: vpc.target.fields ++ [utf8 vpc.egress.asStr]

/-- The `sha2` crate's digest. -/
abbrev Sha256 := Octets → Vector UInt8 32

def truncated (sha256 : Sha256) (stream : Octets) : Octets := (sha256 stream).toList.take 16

def revisionIntent (sha256 : Sha256) (pinned : Pinned) : String :=
  hexEncode (truncated sha256 (framed pinned.fields))

def revisionIntentWithVpc (sha256 : Sha256) (intent : String) : Option VpcAccess → String
  | none => intent
  | some vpc => hexEncode (truncated sha256 (framed (vpcFields intent vpc)))

structure WarmInput where
  env : Environment
  revision : Revision
  params : GcpCloudRunParams

namespace WarmInput

def pinned (self : WarmInput) : Pinned where
  image := self.params.imageRefFor self.revision.runtimeImageDigest
  runtimeServiceAccount := self.params.runtimeServiceAccount self.env.environmentId.asStr
  scaling := self.params.scaling
  sessionAffinity := sessionAffinity
  secretName := environmentSecretName self.params.secretPrefix
  bootEnv := runtimeBootEnv self.env self.revision self.params
  secretEnvNames := Intent.secretEnvNames self.params

def stream (self : WarmInput) : Octets := framed self.pinned.fields

def baseIntent (sha256 : Sha256) (self : WarmInput) : String := revisionIntent sha256 self.pinned

def intent (sha256 : Sha256) (self : WarmInput) : String :=
  revisionIntentWithVpc sha256 (self.baseIntent sha256) self.params.sharedState.vpc

def hashed (sha256 : Sha256) (self : WarmInput) : List (List Octets) :=
  self.pinned.fields ::
    (self.params.sharedState.vpc.map (vpcFields (self.baseIntent sha256))).toList

end WarmInput

/-- The versions that staging has minted or re-used; the dev store is staged where the
environment has one. -/
structure Staged where
  environment : String
  devStore : Option String
  headers : String
  redisUrl : String

def secretItems (staged : Staged) : List SecretMountItem :=
  ⟨staged.environment, environmentSeedFile⟩ ::
    (staged.devStore.map fun version => ⟨version, devStoreRelative⟩).toList

def secretEnv (params : GcpCloudRunParams) (staged : Staged) : List SecretEnvVar :=
  (if params.telemetry.headers.isSome then
    headerEnvNames.map fun name =>
      ⟨name, environmentSecretName params.secretPrefix, staged.headers⟩
  else []) ++
  if params.sharedState.redisUrl.isSome then
    redisUrlEnvNames.map fun name =>
      ⟨name, redisUrlSecretName params.secretPrefix, staged.redisUrl⟩
  else []

/-- The template that `create_revision` renders. -/
def WarmInput.template (sha256 : Sha256) (self : WarmInput) (staged : Staged) :
    RevisionTemplate where
  image := self.pinned.image
  runtimeServiceAccount := self.pinned.runtimeServiceAccount
  scaling := self.params.scaling
  sessionAffinity := sessionAffinity
  revisionIntent := self.intent sha256
  secrets := [⟨seedMountDir, self.pinned.secretName, secretItems staged⟩]
  env := self.pinned.bootEnv
  secretEnv := secretEnv self.params staged
  vpcAccess := self.params.sharedState.vpc

/-- A template without the versions it pins and without the dev store. -/
def RevisionTemplate.unversioned (self : RevisionTemplate) : RevisionTemplate :=
  { self with
    secrets := self.secrets.map fun mount =>
      { mount with
        items := (mount.items.filter fun item => item.relPath ≠ devStoreRelative).map
          fun item => { item with version := "" } }
    secretEnv := self.secretEnv.map fun var => { var with version := "" } }

/-- A warm with admitted answers. A slice in memory is shorter than its length prefix can
say. -/
structure Warm (parseUrl : UrlParser) (sha256 : Sha256) extends WarmInput where
  answers : Option Value
  admitted : GcpCloudRunParams.fromAnswers parseUrl env answers = .ok params
  short : ∀ fields ∈ toWarmInput.hashed sha256, ∀ field ∈ fields, Short field

/-- No stream that one warm hashes shares its truncated digest with another one that the
other warm hashes. -/
def NoCollision (sha256 : Sha256) (left right : WarmInput) : Prop :=
  ∀ fields ∈ left.hashed sha256, ∀ fields' ∈ right.hashed sha256,
    truncated sha256 (framed fields) = truncated sha256 (framed fields') →
      framed fields = framed fields'

theorem mem_insert_keys {key : String} {value : String} {entries : List (String × String)}
    {entry : String × String} (member : entry ∈ Store.BTreeMap.insert key value entries) :
    entry.1 = key ∨ entry ∈ entries := by
  simp only [Store.BTreeMap.insert, List.mem_append, List.mem_cons, List.mem_filter] at member
  rcases member with below | here | above
  · exact .inr below.1
  · exact .inl (congrArg Prod.fst here)
  · exact .inr above.1

def AllowedNames (entries : List (String × String)) : Prop := ∀ entry ∈ entries, entry.1 ∈ allowedEnv

theorem parseTelemetryEntry_allowed {parseUrl : UrlParser} {env env' : BTreeMap String}
    {entry : String × Value} (parsed : parseTelemetryEntry parseUrl env entry = .ok env')
    (allowed : AllowedNames env.entries) : AllowedNames env'.entries := by
  unfold parseTelemetryEntry at parsed
  split at parsed
  · cases parsed
  split at parsed
  · cases parsed
  rename_i known
  split at parsed
  · cases parsed
  split at parsed
  · cases parsed
  split at parsed
  · cases parsed
  cases parsed
  intro kept member
  rcases mem_insert_keys member with same | old
  · rw [same]
    exact not_not.mp known
  · exact allowed kept old

theorem parseTelemetryEnv_allowed {parseUrl : UrlParser} {answer : Option Value}
    {env : BTreeMap String} (parsed : parseTelemetryEnv parseUrl answer = .ok env) :
    AllowedNames env.entries := by
  unfold parseTelemetryEnv at parsed
  split at parsed
  · cases parsed
    exact fun entry member => by cases member
  · cases parsed
    exact fun entry member => by cases member
  · rename_i fields
    exact foldlM_invariant (fun env : BTreeMap String => AllowedNames env.entries) fields
      (fun entry _ env env' => parseTelemetryEntry_allowed) parsed
      (fun entry member => by cases member)
  · cases parsed

theorem fromAnswers_allowed {parseUrl : UrlParser} {env : Environment} {answers : Option Value}
    {params : GcpCloudRunParams}
    (admitted : GcpCloudRunParams.fromAnswers parseUrl env answers = .ok params) :
    AllowedNames params.telemetry.env.entries := by
  unfold GcpCloudRunParams.fromAnswers at admitted
  split at admitted
  · cases admitted
    exact fun entry member => by cases member
  · obtain ⟨collected, -, admitted⟩ := bind_ok admitted
    obtain ⟨telemetry, parsed, admitted⟩ := bind_ok admitted
    obtain ⟨shared, -, same⟩ := bind_ok admitted
    cases pure_ok same
    obtain ⟨env, envParsed, rest⟩ := bind_ok (mapError_ok parsed)
    obtain ⟨headers, -, same⟩ := bind_ok rest
    cases pure_ok same
    exact parseTelemetryEnv_allowed envParsed
  · cases admitted

theorem envForRole_allowed {telemetry : TelemetryAnswers} (role : String)
    (allowed : AllowedNames telemetry.env.entries) : AllowedNames (telemetry.envForRole role) := by
  unfold TelemetryAnswers.envForRole
  split
  · exact fun entry member => by cases member
  · intro entry member
    rcases mem_insert_keys member with same | old
    · rw [same]
      decide
    · exact allowed entry (List.mem_filter.mp old).1

theorem runtimeBootEnv_untagged {env : Environment} {revision : Revision}
    {params : GcpCloudRunParams} (allowed : AllowedNames params.telemetry.env.entries) :
    ∀ entry ∈ runtimeBootEnv env revision params, entry.1 ≠ secretEnvTag := by
  have known : ∀ name ∈ allowedEnv, name ≠ secretEnvTag := by decide
  intro entry member
  simp only [runtimeBootEnv, List.mem_append] at member
  rcases member with (((fixed | tenant) | team) | shared) | telemetry
  · simp only [List.mem_cons, List.not_mem_nil, or_false] at fixed
    rcases fixed with rfl | rfl | rfl | rfl | rfl | rfl | rfl | rfl | rfl <;> simp [secretEnvTag]
  · obtain ⟨value, -, rfl⟩ := Option.map_eq_some_iff.mp (Option.mem_toList.mp tenant)
    simp [secretEnvTag]
  · obtain ⟨value, -, rfl⟩ := Option.map_eq_some_iff.mp (Option.mem_toList.mp team)
    simp [secretEnvTag]
  · unfold SharedState.bootEnv at shared
    split at shared
    · cases shared
    · rcases List.mem_pair.mp shared with rfl | rfl <;> simp [secretEnvTag]
  · exact known _ (envForRole_allowed "worker" allowed entry telemetry)

def pairFields (pairs : List (String × String)) : List Octets :=
  pairs.flatMap fun pair => [utf8 pair.1, utf8 pair.2]

theorem pairFields_inj {left right : List (String × String)}
    (same : pairFields left = pairFields right) : left = right := by
  induction left generalizing right with
  | nil =>
      cases right with
      | nil => rfl
      | cons pair rest => cases same
  | cons head tail ih =>
      cases right with
      | nil => cases same
      | cons pair rest =>
          simp only [pairFields, List.flatMap_cons, List.cons_append, List.nil_append,
            List.cons.injEq] at same
          obtain ⟨firsts, seconds, rests⟩ := same
          have heads : head = pair := Prod.ext (utf8_inj firsts) (utf8_inj seconds)
          rw [heads, ih rests]

theorem tagged_inj {left right : List (String × String)} {names names' : List String}
    (plain : ∀ entry ∈ left, entry.1 ≠ secretEnvTag)
    (plain' : ∀ entry ∈ right, entry.1 ≠ secretEnvTag)
    (same : left ++ names.map (Prod.mk secretEnvTag) =
      right ++ names'.map (Prod.mk secretEnvTag)) : left = right ∧ names = names' := by
  induction left generalizing right with
  | nil =>
      cases right with
      | nil => exact ⟨rfl, List.map_injective_iff.mpr (Prod.mk_right_injective _) same⟩
      | cons entry rest =>
          have tagged : entry ∈ names.map (Prod.mk secretEnvTag) := by
            rw [List.nil_append] at same
            rw [same]
            exact List.mem_cons_self
          obtain ⟨name, -, rfl⟩ := List.mem_map.mp tagged
          exact absurd rfl (plain' _ List.mem_cons_self)
  | cons head tail ih =>
      cases right with
      | nil =>
          have tagged : head ∈ names'.map (Prod.mk secretEnvTag) := by
            rw [List.nil_append] at same
            rw [← same]
            exact List.mem_cons_self
          obtain ⟨name, -, rfl⟩ := List.mem_map.mp tagged
          exact absurd rfl (plain _ List.mem_cons_self)
      | cons entry rest =>
          obtain ⟨heads, tails⟩ := List.cons.inj same
          obtain ⟨rests, sameNames⟩ := ih (List.forall_mem_cons.mp plain).2
            (List.forall_mem_cons.mp plain').2 tails
          exact ⟨by rw [heads, rests], sameNames⟩

theorem Pinned.fields_eq (self : Pinned) :
    self.fields =
      [utf8 self.image, utf8 self.runtimeServiceAccount, utf8 self.scaling.cpu,
        utf8 self.scaling.memory, littleEndian 4 self.scaling.minInstances.toNat,
        littleEndian 4 self.scaling.maxInstances.toNat,
        littleEndian 4 self.scaling.concurrency.toNat] ++
      (self.scaling.cpuField ++
        [if self.sessionAffinity then 1 else 0] :: utf8 self.secretName ::
          pairFields (self.bootEnv ++ self.secretEnvNames.map (Prod.mk secretEnvTag))) := by
  simp [Pinned.fields, pairFields, List.flatMap_map]

theorem word_inj {a b : UInt32}
    (same : littleEndian 4 a.toNat = littleEndian 4 b.toNat) : a = b :=
  UInt32.toNat_inj.mp (littleEndian_inj a.toNat_lt b.toNat_lt same)

theorem cpuField_inj {left right : ScalingSpec} {affinity affinity' : Bool}
    {rest rest' : List Octets}
    (same : left.cpuField ++ [if affinity then 1 else 0] :: rest =
      right.cpuField ++ [if affinity' then 1 else 0] :: rest') :
    left.cpuAlwaysAllocated = right.cpuAlwaysAllocated ∧ affinity = affinity' ∧ rest = rest' := by
  have long : ∀ byte : UInt8, utf8 "cpu-always-allocated" ≠ [byte] := by
    intro byte short
    have length : (utf8 "cpu-always-allocated").length = 20 := by decide
    rw [short] at length
    cases length
  have flags : ∀ a b : Bool, ([if a then 1 else 0] : Octets) = [if b then 1 else 0] → a = b := by
    decide
  unfold ScalingSpec.cpuField at same
  cases leftFlag : left.cpuAlwaysAllocated with
  | false =>
      cases rightFlag : right.cpuAlwaysAllocated with
      | false =>
          simp only [leftFlag, rightFlag, Bool.false_eq_true, if_false, List.nil_append] at same
          obtain ⟨heads, rests⟩ := List.cons.inj same
          exact ⟨rfl, flags _ _ heads, rests⟩
      | true =>
          simp only [leftFlag, rightFlag, Bool.false_eq_true, if_false, if_true, List.nil_append,
            List.cons_append] at same
          exact absurd (List.cons.inj same).1.symm (long _)
  | true =>
      cases rightFlag : right.cpuAlwaysAllocated with
      | false =>
          simp only [leftFlag, rightFlag, Bool.false_eq_true, if_false, if_true, List.nil_append,
            List.cons_append] at same
          exact absurd (List.cons.inj same).1 (long _)
      | true =>
          simp only [leftFlag, rightFlag, if_true, List.cons_append, List.nil_append] at same
          obtain ⟨heads, rests⟩ := List.cons.inj (List.cons.inj same).2
          exact ⟨rfl, flags _ _ heads, rests⟩

theorem Pinned.fields_inj {left right : Pinned}
    (plain : ∀ entry ∈ left.bootEnv, entry.1 ≠ secretEnvTag)
    (plain' : ∀ entry ∈ right.bootEnv, entry.1 ≠ secretEnvTag)
    (same : left.fields = right.fields) : left = right := by
  rw [fields_eq, fields_eq] at same
  obtain ⟨heads, tails⟩ := List.append_inj same rfl
  simp only [List.cons.injEq, and_true] at heads
  obtain ⟨image, account, cpu, memory, low, high, concurrency⟩ := heads
  obtain ⟨allocated, affinity, rest⟩ := cpuField_inj tails
  obtain ⟨secretName, pairs⟩ := List.cons.inj rest
  obtain ⟨bootEnv, names⟩ := tagged_inj plain plain' (pairFields_inj pairs)
  have scaling : left.scaling = right.scaling := by
    cases leftScaling : left.scaling
    cases rightScaling : right.scaling
    simp only [leftScaling, rightScaling] at cpu memory low high concurrency allocated
    rw [utf8_inj cpu, utf8_inj memory, word_inj low, word_inj high, word_inj concurrency,
      allocated]
  cases left
  cases right
  simp only [Pinned.mk.injEq]
  exact ⟨utf8_inj image, utf8_inj account, scaling, affinity, utf8_inj secretName, bootEnv, names⟩

theorem VpcAccess.ext_fields {left right : VpcAccess} {intent intent' : String}
    (same : vpcFields intent left = vpcFields intent' right) : intent = intent' ∧ left = right := by
  have egress : ∀ a b : VpcEgress, a.asStr = b.asStr → a = b := by
    intro a b texts
    cases a <;> cases b <;> first | rfl | (revert texts; decide)
  have tags : utf8 "vpc-connector" ≠ utf8 "vpc-direct" := fun tags => by
    have texts := utf8_inj tags
    revert texts
    decide
  obtain ⟨leftTarget, leftEgress⟩ := left
  obtain ⟨rightTarget, rightEgress⟩ := right
  simp only [vpcFields, List.cons_append, List.cons.injEq] at same
  obtain ⟨intents, rests⟩ := same
  refine ⟨utf8_inj intents, ?_⟩
  cases leftTarget with
  | connector path =>
      cases rightTarget with
      | connector path' =>
          simp only [VpcTarget.fields, List.cons_append, List.nil_append, List.cons.injEq,
            true_and, and_true] at rests
          rw [utf8_inj rests.1, egress _ _ (utf8_inj rests.2)]
      | direct network subnetwork => exact absurd (List.cons.inj rests).1 tags
  | direct network subnetwork =>
      cases rightTarget with
      | connector path => exact absurd (List.cons.inj rests).1.symm tags
      | direct network' subnetwork' =>
          simp only [VpcTarget.fields, List.cons_append, List.nil_append, List.cons.injEq,
            true_and, and_true] at rests
          rw [utf8_inj rests.1, utf8_inj rests.2.1, egress _ _ (utf8_inj rests.2.2)]

theorem slash_mem_imageRefFor (params : GcpCloudRunParams) (pin : Option String) :
    '/' ∈ (params.imageRefFor pin).toList := by
  unfold GcpCloudRunParams.imageRefFor
  cases params.arRepo <;> cases pin.or params.runtimeImageDigest <;> simp

/-- A stamp is no image, so a stamp with a VPC is none without. -/
theorem image_ne_hexEncode (params : GcpCloudRunParams) (pin : Option String) (bytes : Octets) :
    params.imageRefFor pin ≠ hexEncode bytes := by
  intro same
  have slash := slash_mem_imageRefFor params pin
  rw [same] at slash
  have digit := mem_hexEncode slash
  revert digit
  decide

section Warm

variable {parseUrl : UrlParser} {sha256 : Sha256} (left right : Warm parseUrl sha256)

theorem Warm.fields_of_stream {fields fields' : List Octets}
    (member : fields ∈ left.hashed sha256) (member' : fields' ∈ right.hashed sha256)
    (same : framed fields = framed fields') : fields = fields' :=
  framed_inj (left.short fields member) (right.short fields' member') same

theorem Warm.untagged : ∀ entry ∈ left.pinned.bootEnv, entry.1 ≠ secretEnvTag :=
  runtimeBootEnv_untagged (fromAnswers_allowed left.admitted)

theorem Warm.stream_inj (same : left.stream = right.stream) : left.pinned = right.pinned :=
  Pinned.fields_inj left.untagged right.untagged
    (left.fields_of_stream right List.mem_cons_self List.mem_cons_self same)

theorem Warm.baseIntent_inj (distinct : NoCollision sha256 left.toWarmInput right.toWarmInput)
    (same : left.baseIntent sha256 = right.baseIntent sha256) : left.pinned = right.pinned :=
  left.stream_inj right
    (distinct _ List.mem_cons_self _ List.mem_cons_self (hexEncode_inj same))

theorem Warm.vpcFields_mem {vpc : VpcAccess} (answered : left.params.sharedState.vpc = some vpc) :
    vpcFields (left.baseIntent sha256) vpc ∈ left.hashed sha256 := by
  simp [WarmInput.hashed, answered]

theorem Warm.base_ne_vpc (distinct : NoCollision sha256 left.toWarmInput right.toWarmInput)
    {vpc : VpcAccess} (answered : right.params.sharedState.vpc = some vpc) :
    left.baseIntent sha256 ≠
      hexEncode (truncated sha256 (framed (vpcFields (right.baseIntent sha256) vpc))) := by
  intro same
  have member := right.vpcFields_mem answered
  have streams := distinct _ List.mem_cons_self _ member (hexEncode_inj same)
  have fields := left.fields_of_stream right List.mem_cons_self member streams
  exact image_ne_hexEncode _ _ _ (utf8_inj (List.cons.inj fields).1)

theorem NoCollision.symm {left right : WarmInput} (distinct : NoCollision sha256 left right) :
    NoCollision sha256 right left :=
  fun fields member fields' member' same =>
    (distinct fields' member' fields member same.symm).symm

theorem Warm.intent_inj (distinct : NoCollision sha256 left.toWarmInput right.toWarmInput)
    (same : left.intent sha256 = right.intent sha256) :
    left.pinned = right.pinned ∧ left.params.sharedState.vpc = right.params.sharedState.vpc := by
  unfold WarmInput.intent at same
  cases leftVpc : left.params.sharedState.vpc with
  | none =>
      cases rightVpc : right.params.sharedState.vpc with
      | none =>
          rw [leftVpc, rightVpc] at same
          exact ⟨left.baseIntent_inj right distinct same, rfl⟩
      | some vpc =>
          rw [leftVpc, rightVpc] at same
          exact absurd same (left.base_ne_vpc right distinct rightVpc)
  | some vpc =>
      cases rightVpc : right.params.sharedState.vpc with
      | none =>
          rw [leftVpc, rightVpc] at same
          exact absurd same.symm (right.base_ne_vpc left distinct.symm leftVpc)
      | some vpc' =>
          rw [leftVpc, rightVpc] at same
          have member := left.vpcFields_mem leftVpc
          have member' := right.vpcFields_mem rightVpc
          have streams := distinct _ member _ member' (hexEncode_inj same)
          have fields := left.fields_of_stream right member member' streams
          obtain ⟨intents, access⟩ := VpcAccess.ext_fields fields
          exact ⟨left.baseIntent_inj right distinct intents, congrArg some access⟩

theorem secretEnvNames_flags {params params' : GcpCloudRunParams}
    (same : secretEnvNames params = secretEnvNames params') :
    params.telemetry.headers.isSome = params'.telemetry.headers.isSome ∧
      params.sharedState.redisUrl.isSome = params'.sharedState.redisUrl.isSome := by
  unfold secretEnvNames SharedState.secretEnvNames at same
  revert same
  generalize params.telemetry.headers.isSome = a
  generalize params'.telemetry.headers.isSome = b
  generalize params.sharedState.redisUrl.isSome = c
  generalize params'.sharedState.redisUrl.isSome = d
  revert a b c d
  decide

/-- Without versions, what is mounted does not depend on the staging. -/
theorem unversioned_items (staged : Staged) :
    ((secretItems staged).filter fun item => item.relPath ≠ devStoreRelative).map
      (fun item => { item with version := "" }) = [⟨"", environmentSeedFile⟩] := by
  unfold secretItems
  cases staged.devStore with
  | none => rfl
  | some version => rfl

theorem unversioned_secretEnv {params params' : GcpCloudRunParams} (staged staged' : Staged)
    (names : secretEnvNames params = secretEnvNames params')
    (secretPrefix : params.secretPrefix = params'.secretPrefix) :
    (secretEnv params staged).map (fun var => { var with version := "" }) =
      (secretEnv params' staged').map fun var => { var with version := "" } := by
  obtain ⟨headers, redis⟩ := secretEnvNames_flags names
  unfold secretEnv
  rw [headers, redis, secretPrefix]
  cases params'.telemetry.headers.isSome <;> cases params'.sharedState.redisUrl.isSome <;> rfl

/-- The stream of two warms is equal only where what they pin is equal; and where their
stamps are equal, and none of their streams collide, so are the templates that they render,
but for the versions and the dev store. -/
theorem intent_identifies_template :
    (left.stream = right.stream → left.pinned = right.pinned) ∧
    (NoCollision sha256 left.toWarmInput right.toWarmInput →
      left.intent sha256 = right.intent sha256 → ∀ staged staged',
        (left.template sha256 staged).unversioned =
          (right.template sha256 staged').unversioned) := by
  refine ⟨left.stream_inj right, fun distinct same staged staged' => ?_⟩
  obtain ⟨pinned, vpc⟩ := left.intent_inj right distinct same
  have scaling : left.params.scaling = right.params.scaling := congrArg Pinned.scaling pinned
  have names : secretEnvNames left.params = secretEnvNames right.params :=
    congrArg Pinned.secretEnvNames pinned
  have secretPrefix : left.params.secretPrefix = right.params.secretPrefix :=
    (String.append_left_inj "-environment").mp (congrArg Pinned.secretName pinned)
  simp only [RevisionTemplate.unversioned, WarmInput.template, List.map_cons, List.map_nil,
    RevisionTemplate.mk.injEq]
  refine ⟨by rw [pinned], by rw [pinned], scaling, trivial, same, ?_, by rw [pinned],
    unversioned_secretEnv staged staged' names secretPrefix, vpc⟩
  rw [unversioned_items, unversioned_items, pinned]

end Warm

def readRedis : UrlParser := fun text =>
  if text = "redis://10.0.0.3:6379" then some ⟨"redis", some "10.0.0.3"⟩ else none

/-- The digests of the two streams of the warms below. -/
def sampleSha256 : Sha256 := fun stream =>
  if stream.length = 948 then
    #v[8, 230, 15, 185, 155, 109, 215, 220, 26, 67, 141, 117, 214, 97, 66, 61, 209, 126, 148, 54,
      125, 208, 181, 216, 104, 23, 164, 86, 193, 8, 1, 115]
  else
    #v[125, 185, 132, 237, 245, 60, 209, 70, 162, 65, 17, 98, 70, 57, 209, 212, 128, 15, 75, 85,
      127, 110, 37, 184, 29, 0, 28, 160, 244, 34, 56, 139]

def sharedAnswers (accessMode : String) : Value :=
  .object [("access_mode", .string accessMode), ("redis_url", .string "redis://10.0.0.3:6379"),
    ("vpc_connector", .string "gtc"), ("cpu_always_allocated", .bool true),
    ("telemetry_env", .object [("OTEL_SERVICE_NAME", .string "demo")])]

def sharedParams (accessMode : String) : Except GcpCloudRunParamsError GcpCloudRunParams :=
  GcpCloudRunParams.fromAnswers readRedis Engine.localFresh (some (sharedAnswers accessMode))

def sharedRevision : Revision where
  schema := ⟨SchemaVersion.revisionV1⟩
  revisionId := ⟨7⟩
  envId := ⟨"local"⟩
  bundleId := ⟨"demo"⟩
  deploymentId := ⟨1⟩
  sequence := 1
  createdAt := 0
  bundleDigest := "sha256:00"
  bundleSourceUri := none
  packList := []
  packListLockRef := "pack-list.lock"
  packConfigRefs := []
  configDigest := "sha256:00"
  signatureSidecarRef := "rev.sig"
  lifecycle := .staged
  stagedAt := some 0
  warmedAt := none
  drainSeconds := 0
  runtimeImageDigest := none
  abortMetrics := []

def sharedInput (accessMode : String) : WarmInput where
  env := Engine.localFresh
  revision := sharedRevision
  params := (sharedParams accessMode).toOption.getD (.forEnv Engine.localFresh)

def publicWarm : Warm readRedis sampleSha256 where
  toWarmInput := sharedInput "public"
  answers := some (sharedAnswers "public")
  admitted := isOk_eq (by decide) (.forEnv Engine.localFresh)
  short := by decide +kernel

def authenticatedWarm : Warm readRedis sampleSha256 where
  toWarmInput := sharedInput "authenticated"
  answers := some (sharedAnswers "authenticated")
  admitted := isOk_eq (by decide) (.forEnv Engine.localFresh)
  short := by decide +kernel

/-- The same revision warmed once more, with another access mode, another version and a dev
store. -/
theorem retried_template_same :
    publicWarm.params ≠ authenticatedWarm.params ∧
    publicWarm.intent sampleSha256 = authenticatedWarm.intent sampleSha256 ∧
    (publicWarm.template sampleSha256 ⟨"1", none, "", "1"⟩).unversioned =
      (authenticatedWarm.template sampleSha256 ⟨"2", some "3", "", "1"⟩).unversioned := by
  have same : publicWarm.intent sampleSha256 = authenticatedWarm.intent sampleSha256 := by
    decide +kernel
  have distinct : NoCollision sampleSha256 publicWarm.toWarmInput authenticatedWarm.toWarmInput := by
    unfold NoCollision
    decide +kernel
  exact ⟨by decide, same,
    (intent_identifies_template publicWarm authenticatedWarm).2 distinct same _ _⟩

end GreenticDeployer.CloudRun.Intent
