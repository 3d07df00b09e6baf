import GreenticDeployer.Store.Sqlite

/-!
# The answers of a Cloud Run binding

The wizard's answers are one flat JSON object. They are read over the defaults of the
environment; an unknown key, and a value that its key does not admit, is an error.
-/

set_option maxHeartbeats 200000

namespace GreenticDeployer.CloudRun.Intent

open Spec Lib

inductive Number
  | posInt (n : UInt64)
  | negInt (n : Int64)
  | float (text : String)

inductive Value
  | null
  | bool (b : Bool)
  | number (n : Number)
  | string (s : String)
  | array (items : List Value)
  | object (fields : List (String × Value))

namespace Value

def asStr : Value → Option String
  | string s => some s
  | _ => none

def asBool : Value → Option Bool
  | bool b => some b
  | _ => none

def asU64 : Value → Option UInt64
  | number (.posInt n) => some n
  | _ => none

end Value

def trimmed (text : String) : String := String.ofList (trim text)

def parseU32Text (text : String) : Option UInt32 :=
  let digits := match text.toList with
    | '+' :: rest => rest
    | chars => chars
  if digits = [] ∨ ¬digits.all Char.isDigit then none
  else
    let n := digits.foldl (fun n digit => 10 * n + (digit.toNat - 48)) 0
    if n < 2 ^ 32 then some (UInt32.ofNat n) else none

/-- What the `url` crate makes of a text: no URL, or its scheme and host. -/
structure Url where
  scheme : String
  hostStr : Option String

abbrev UrlParser := String → Option Url

def Url.hasHost (url : Url) : Bool := url.hostStr.any fun host => host ≠ ""

def headerEnvNames : List String := ["OTEL_EXPORTER_OTLP_HEADERS", "OTLP_HEADERS"]

def allowedEnv : List String :=
  ["TELEMETRY_EXPORT", "OTLP_ENDPOINT", "OTEL_EXPORTER_OTLP_ENDPOINT",
    "OTEL_EXPORTER_OTLP_PROTOCOL", "OTEL_TRACES_SAMPLER", "OTEL_TRACES_SAMPLER_ARG",
    "OTEL_RESOURCE_ATTRIBUTES", "OTEL_SERVICE_NAME", "GREENTIC_TELEMETRY_ENABLED",
    "GREENTIC_TELEMETRY_EXPORTER", "GREENTIC_TELEMETRY_ENDPOINT", "GREENTIC_TELEMETRY_SAMPLING"]

def endpointNames : List String :=
  ["OTLP_ENDPOINT", "OTEL_EXPORTER_OTLP_ENDPOINT", "GREENTIC_TELEMETRY_ENDPOINT"]

def resourceAttributes : String := "OTEL_RESOURCE_ATTRIBUTES"

def roleAttribute : String := "greentic.role"

def maxEnvValueLen : Nat := 2048

def maxHeadersLen : Nat := 8192

inductive TelemetryAnswerError
  | envNotAnObject
  | notAString (name : String)
  | unknownName (name : String)
  | headerInEnv (name : String)
  | tooLong (name : String)
  | badEndpoint (name : String)
  | headersNotAString
  | headersTooLong
  deriving DecidableEq

structure TelemetryAnswers where
  env : BTreeMap String
  headers : Option String
  deriving DecidableEq

namespace TelemetryAnswers

def isEmpty (self : TelemetryAnswers) : Bool := self.env.entries.isEmpty && self.headers.isNone

def carriesRole (attributes : String) : Bool :=
  (attributes.toList.splitOn ',').any fun kv =>
    (roleAttribute ++ "=").toList.isPrefixOf (trim (String.ofList kv))

def attributesFor (role : String) : Option String → String
  | none => roleAttribute ++ "=" ++ role
  | some existing =>
    if carriesRole existing then existing
    else if existing = "" then roleAttribute ++ "=" ++ role
    else existing ++ "," ++ roleAttribute ++ "=" ++ role

/-- The plain variables of one pod role, sorted by name. -/
def envForRole (self : TelemetryAnswers) (role : String) : List (String × String) :=
  if self.isEmpty then []
  else
    Store.BTreeMap.insert resourceAttributes
      (attributesFor role (self.env.entries.lookup resourceAttributes))
      (self.env.entries.filter fun entry => entry.1 ≠ resourceAttributes)

end TelemetryAnswers

def isHeaderName (name : String) : Bool :=
  "_HEADERS".toList.isSuffixOf name.toList &&
    ("OTEL_".toList.isPrefixOf name.toList || "OTLP_".toList.isPrefixOf name.toList)

section Parse

variable (parseUrl : UrlParser)

def validEndpoint (raw : String) : Bool :=
  (parseUrl raw).any fun url => (url.scheme = "http" ∨ url.scheme = "https") ∧ url.hasHost

def parseTelemetryEntry (env : BTreeMap String) (entry : String × Value) :
    Except TelemetryAnswerError (BTreeMap String) :=
  if isHeaderName entry.1 then .error (.headerInEnv entry.1)
  else if entry.1 ∉ allowedEnv then .error (.unknownName entry.1)
  else
    match entry.2.asStr with
    | none => .error (.notAString entry.1)
    | some value =>
      if value.utf8ByteSize > maxEnvValueLen then .error (.tooLong entry.1)
      else if entry.1 ∈ endpointNames ∧ ¬validEndpoint parseUrl value then
        .error (.badEndpoint entry.1)
      else .ok ⟨Store.BTreeMap.insert entry.1 value env.entries,
        Store.BTreeMap.insert_ascending _ _ _ env.ascending⟩

def parseTelemetryEnv : Option Value → Except TelemetryAnswerError (BTreeMap String)
  | none | some .null => .ok BTreeMap.empty
  | some (.object fields) => fields.foldlM (parseTelemetryEntry parseUrl) BTreeMap.empty
  | some _ => .error .envNotAnObject

def parseTelemetryHeaders : Option Value → Except TelemetryAnswerError (Option String)
  | none | some .null => .ok none
  | some (.string headers) =>
    if trim headers = [] then .ok none
    else if headers.utf8ByteSize > maxHeadersLen then .error .headersTooLong
    else .ok (some headers)
  | some _ => .error .headersNotAString

def parseTelemetry (env headers : Option Value) :
    Except TelemetryAnswerError TelemetryAnswers := do
  let env ← parseTelemetryEnv parseUrl env
  let headers ← parseTelemetryHeaders headers
  return ⟨env, headers⟩

end Parse

def redisUrlEnvNames : List String :=
  ["GREENTIC_RUNNER_REDIS_URL", "GREENTIC_REVISION_PIN_REDIS_URL"]

inductive VpcEgress
  | privateRangesOnly
  | allTraffic
  deriving DecidableEq

def VpcEgress.asStr : VpcEgress → String
  | privateRangesOnly => "private-ranges-only"
  | allTraffic => "all-traffic"

inductive VpcTarget
  | connector (path : String)
  | direct (network subnetwork : String)
  deriving DecidableEq

structure VpcAccess where
  target : VpcTarget
  egress : VpcEgress
  deriving DecidableEq

structure SharedState where
  redisUrl : Option String
  vpc : Option VpcAccess
  deriving DecidableEq

namespace SharedState

def bootEnv (self : SharedState) : List (String × String) :=
  if self.redisUrl.isNone then []
  else [("GREENTIC_RUNNER_SESSION_BACKEND", "redis"), ("GREENTIC_RUNNER_STATE_BACKEND", "redis")]

def secretEnvNames (self : SharedState) : List String :=
  if self.redisUrl.isSome then redisUrlEnvNames else []

end SharedState

inductive SharedStateAnswerError
  | notAString (key : String)
  | redisTlsUnsupported
  | redisUrlNotAUrl
  | redisUrlScheme
  | redisUrlNoHost
  | redisWithoutVpc
  | vpcConnectorAndDirect
  | vpcDirectIncomplete (key : String)
  | vpcConnectorInvalid (raw : String)
  | vpcEgressWithoutVpc
  | vpcEgressInvalid (raw : String)
  deriving DecidableEq

structure RawSharedStateAnswers where
  redisUrl : Option Value
  connector : Option Value
  network : Option Value
  subnet : Option Value
  egress : Option Value

def RawSharedStateAnswers.accept (self : RawSharedStateAnswers) (key : String) (value : Value) :
    Option RawSharedStateAnswers :=
  if key = "redis_url" then some { self with redisUrl := some value }
  else if key = "vpc_connector" then some { self with connector := some value }
  else if key = "vpc_network" then some { self with network := some value }
  else if key = "vpc_subnet" then some { self with subnet := some value }
  else if key = "vpc_egress" then some { self with egress := some value }
  else none

def optional (key : String) : Option Value → Except SharedStateAnswerError (Option String)
  | none => .ok none
  | some value =>
    match value.asStr with
    | none => .error (.notAString key)
    | some text => .ok (if trim text = [] then none else some (trimmed text))

def parseRedisUrl (parseUrl : UrlParser) (raw : String) :
    Except SharedStateAnswerError String :=
  match parseUrl raw with
  | none => .error .redisUrlNotAUrl
  | some url =>
    if url.scheme = "rediss" then .error .redisTlsUnsupported
    else if url.scheme ≠ "redis" then .error .redisUrlScheme
    else if url.hasHost then .ok raw
    else .error .redisUrlNoHost

def parseEgress (raw : String) : Except SharedStateAnswerError VpcEgress :=
  if raw = "private-ranges-only" then .ok .privateRangesOnly
  else if raw = "all-traffic" then .ok .allTraffic
  else .error (.vpcEgressInvalid raw)

/-- A bare name is expanded, a whole path is kept. -/
def connectorPath (raw project region : String) : Except SharedStateAnswerError String :=
  if '/' ∉ raw.toList then
    .ok ("projects/" ++ project ++ "/locations/" ++ region ++ "/connectors/" ++ raw)
  else
    match (raw.toList.splitOn '/').map String.ofList with
    | ["projects", p, "locations", l, "connectors", c] =>
      if p ≠ "" ∧ l ≠ "" ∧ c ≠ "" then .ok raw else .error (.vpcConnectorInvalid raw)
    | _ => .error (.vpcConnectorInvalid raw)

def vpcTarget (project region : String) :
    Option String → Option String → Option String → Except SharedStateAnswerError (Option VpcTarget)
  | none, none, none => .ok none
  | some connector, none, none =>
    (connectorPath connector project region).map fun path => some (.connector path)
  | some _, _, _ => .error .vpcConnectorAndDirect
  | none, some network, some subnetwork => .ok (some (.direct network subnetwork))
  | none, some _, none => .error (.vpcDirectIncomplete "vpc_subnet")
  | none, none, some _ => .error (.vpcDirectIncomplete "vpc_network")

def vpcAccess : Option VpcTarget → Option VpcEgress →
    Except SharedStateAnswerError (Option VpcAccess)
  | some target, egress => .ok (some ⟨target, egress.getD .privateRangesOnly⟩)
  | none, some _ => .error .vpcEgressWithoutVpc
  | none, none => .ok none

def parseSharedState (parseUrl : UrlParser) (raw : RawSharedStateAnswers)
    (project region : String) : Except SharedStateAnswerError SharedState := do
  let connector ← optional "vpc_connector" raw.connector
  let network ← optional "vpc_network" raw.network
  let subnet ← optional "vpc_subnet" raw.subnet
  let egressText ← optional "vpc_egress" raw.egress
  let egress ← egressText.mapM parseEgress
  let target ← vpcTarget project region connector network subnet
  let vpc ← vpcAccess target egress
  let redisText ← optional "redis_url" raw.redisUrl
  let redisUrl ← redisText.mapM (parseRedisUrl parseUrl)
  if redisUrl.isSome ∧ vpc.isNone then .error .redisWithoutVpc
  else .ok ⟨redisUrl, vpc⟩

inductive AccessMode
  | public_
  | authenticated
  deriving DecidableEq

inductive SeedMode
  | inline
  | auto
  deriving DecidableEq

structure ScalingSpec where
  cpu : String
  memory : String
  minInstances : UInt32
  maxInstances : UInt32
  concurrency : UInt32
  cpuAlwaysAllocated : Bool
  deriving DecidableEq

structure GcpCloudRunParams where
  project : String
  region : String
  accessMode : AccessMode
  arRepo : Option String
  runtimeImageTag : String
  runtimeImageDigest : Option String
  serviceAccount : Option String
  runtimeTenant : Option String
  runtimeTeam : Option String
  secretPrefix : String
  cpu : String
  memory : String
  maxInstances : UInt32
  minInstances : UInt32
  concurrency : UInt32
  cpuAlwaysAllocated : Bool
  seedMode : SeedMode
  telemetry : TelemetryAnswers
  sharedState : SharedState
  deriving DecidableEq

/-- Why a value is not admitted under its key. -/
inductive InvalidAnswer
  | outOfRange (n : UInt64)
  | notAnInteger (text : String)
  | notASeedMode (text : String)
  | notABoolean (value : Value)
  | notTrueOrFalse (text : String)
  | notAnAccessMode (text : String)

inductive GcpCloudRunParamsError
  | notAnObject
  | notAString (key : String)
  | unknownKey (key : String)
  | invalid (key : String) (detail : InvalidAnswer)
  | telemetry (error : TelemetryAnswerError)
  | sharedState (error : SharedStateAnswerError)

def answerString (key : String) (value : Value) : Except GcpCloudRunParamsError String :=
  match value.asStr with
  | some text => .ok text
  | none => .error (.notAString key)

def optionalString (key : String) (value : Value) :
    Except GcpCloudRunParamsError (Option String) :=
  (answerString key value).map fun text => if trim text = [] then none else some (trimmed text)

def parseU32 (key : String) (value : Value) : Except GcpCloudRunParamsError UInt32 :=
  match value.asU64 with
  | some n =>
    if n.toNat < 2 ^ 32 then .ok n.toUInt32 else .error (.invalid key (.outOfRange n))
  | none => do
    let text ← answerString key value
    match parseU32Text (trimmed text) with
    | some n => .ok n
    | none => .error (.invalid key (.notAnInteger text))

def SeedMode.parse (text : String) : Option SeedMode :=
  let lowered := (trim text).map Char.toLower
  if lowered = "inline".toList then some .inline
  else if lowered = "auto".toList then some .auto
  else none

def parseSeedMode (key : String) (value : Value) : Except GcpCloudRunParamsError SeedMode := do
  let text ← answerString key value
  if trim text = [] then .ok .inline
  else
    match SeedMode.parse text with
    | some mode => .ok mode
    | none => .error (.invalid key (.notASeedMode (trimmed text)))

def parseBool (key : String) (value : Value) : Except GcpCloudRunParamsError Bool :=
  match value.asBool, value.asStr with
  | some b, _ => .ok b
  | none, none => .error (.invalid key (.notABoolean value))
  | none, some text =>
    if trimmed text = "true" then .ok true
    else if trimmed text = "false" then .ok false
    else .error (.invalid key (.notTrueOrFalse (trimmed text)))

def parseAccessMode (key : String) (value : Value) :
    Except GcpCloudRunParamsError AccessMode := do
  let text ← answerString key value
  if text = "public" then .ok .public_
  else if text = "authenticated" then .ok .authenticated
  else .error (.invalid key (.notAnAccessMode text))

namespace GcpCloudRunParams

def forEnv (env : Environment) : GcpCloudRunParams where
  project := "greentic-" ++ env.environmentId.asStr
  region := env.hostConfig.region.getD "us-central1"
  accessMode := .public_
  arRepo := none
  runtimeImageTag := "develop"
  runtimeImageDigest := none
  serviceAccount := none
  runtimeTenant := none
  runtimeTeam := none
  secretPrefix := "gtc-" ++ env.environmentId.asStr
  cpu := "1"
  memory := "512Mi"
  maxInstances := 1
  minInstances := 0
  concurrency := 80
  cpuAlwaysAllocated := false
  seedMode := .inline
  telemetry := ⟨BTreeMap.empty, none⟩
  sharedState := ⟨none, none⟩

/-- What the loop over the answers has collected. -/
structure Collected where
  params : GcpCloudRunParams
  telemetryEnv : Option Value
  telemetryHeaders : Option Value
  shared : RawSharedStateAnswers

def Collected.answer (state : Collected) (key : String) (value : Value) :
    Except GcpCloudRunParamsError Collected :=
  let set := fun params => { state with params }
  let params := state.params
  match key with
  | "project" => (answerString key value).map fun project => set { params with project }
  | "region" => (answerString key value).map fun region => set { params with region }
  | "access_mode" => (parseAccessMode key value).map fun accessMode => set { params with accessMode }
  | "ar_repo" => (optionalString key value).map fun arRepo => set { params with arRepo }
  | "runtime_image_tag" =>
    (answerString key value).map fun runtimeImageTag => set { params with runtimeImageTag }
  | "runtime_image_digest" =>
    (optionalString key value).map fun runtimeImageDigest => set { params with runtimeImageDigest }
  | "service_account" =>
    (optionalString key value).map fun serviceAccount => set { params with serviceAccount }
  | "runtime_tenant" =>
    (optionalString key value).map fun runtimeTenant => set { params with runtimeTenant }
  | "runtime_team" =>
    (optionalString key value).map fun runtimeTeam => set { params with runtimeTeam }
  | "secret_prefix" =>
    (answerString key value).map fun secretPrefix => set { params with secretPrefix }
  | "cpu" => (answerString key value).map fun cpu => set { params with cpu }
  | "memory" => (answerString key value).map fun memory => set { params with memory }
  | "max_instances" => (parseU32 key value).map fun maxInstances => set { params with maxInstances }
  | "min_instances" => (parseU32 key value).map fun minInstances => set { params with minInstances }
  | "concurrency" => (parseU32 key value).map fun concurrency => set { params with concurrency }
  | "cpu_always_allocated" =>
    (parseBool key value).map fun cpuAlwaysAllocated => set { params with cpuAlwaysAllocated }
  | "seed_mode" => (parseSeedMode key value).map fun seedMode => set { params with seedMode }
  | "telemetry_env" => .ok { state with telemetryEnv := some value }
  | "telemetry_headers" => .ok { state with telemetryHeaders := some value }
  | other => .error (.unknownKey other)

def Collected.collect (state : Collected) (entry : String × Value) :
    Except GcpCloudRunParamsError Collected :=
  match state.shared.accept entry.1 entry.2 with
  | some shared => .ok { state with shared }
  | none => state.answer entry.1 entry.2

def fromAnswers (parseUrl : UrlParser) (env : Environment) (answers : Option Value) :
    Except GcpCloudRunParamsError GcpCloudRunParams :=
  match answers with
  | none => .ok (forEnv env)
  | some (.object fields) => do
    let collected ← fields.foldlM Collected.collect
      ⟨forEnv env, none, none, ⟨none, none, none, none, none⟩⟩
    let telemetry ← (parseTelemetry parseUrl collected.telemetryEnv
      collected.telemetryHeaders).mapError .telemetry
    -- A bare connector is expanded against the answered project and region.
    let sharedState ← (parseSharedState parseUrl collected.shared collected.params.project
      collected.params.region).mapError .sharedState
    return { collected.params with telemetry, sharedState }
  | some _ => .error .notAnObject

/-- A revision's own pin wins over the answered digest and the tag. -/
def imageRefFor (self : GcpCloudRunParams) (pin : Option String) : String :=
  let base := match self.arRepo with
    | some repo => self.region ++ "-docker.pkg.dev/" ++ self.project ++ "/" ++ repo ++
        "/greenticai/greentic-start-distroless"
    | none => "ghcr.io/greenticai/greentic-start-distroless"
  match pin.or self.runtimeImageDigest with
  | some digest => base ++ "@" ++ digest
  | none => base ++ ":" ++ self.runtimeImageTag

def scaling (self : GcpCloudRunParams) : ScalingSpec where
  cpu := self.cpu
  memory := self.memory
  minInstances := self.minInstances
  maxInstances := self.maxInstances
  concurrency := self.concurrency
  cpuAlwaysAllocated := self.cpuAlwaysAllocated

def defaultRuntimeServiceAccount (envId project : String) : String :=
  "gtc-" ++ envId ++ "-runtime@" ++ project ++ ".iam.gserviceaccount.com"

def runtimeServiceAccount (self : GcpCloudRunParams) (envId : String) : String :=
  self.serviceAccount.getD (defaultRuntimeServiceAccount envId self.project)

end GcpCloudRunParams

end GreenticDeployer.CloudRun.Intent
