import GreenticDeployer.Credentials.StorePaths
import GreenticDeployer.Lib.Crash
import Mathlib.Logic.Function.Basic

/-!
# Bootstraps, rotations, puts and staged seeds

The flows that write an environment's dev stores and the one that stages a seed
from them. All but the put hold the environment's lock; a put may land before any
call of theirs.
-/

set_option maxHeartbeats 200000

namespace GreenticDeployer.Credentials

open Spec Lib Sor

inductive Writer
  | credentialSink
  | runtimePut
  | other
  deriving DecidableEq

/-- A stored value, with who wrote it last. -/
structure StoredSecret where
  value : String
  writer : Writer
  deriving DecidableEq

abbrev DevStore := SecretUri → Option StoredSecret

def DevStore.empty : DevStore := fun _ => none

/-- `DevStore::copy_excluding`: all but the keys named, without their version. -/
def copyExcluding (store : DevStore) (uris : List SecretUri) : DevStore :=
  fun key => if Names uris key then none else store key

/-- An environment's directory: its documents and the dev stores found at paths,
wherever these are. `puts` remembers where each put stored its key. -/
structure EnvDir where
  environment : Environment
  sorUnits : List SorUnit
  sorLedger : List AppliedSorUnit
  files : PathBuf → Option DevStore
  puts : List (PathBuf × SecretUri)

def EnvDir.stored (dir : EnvDir) (path : PathBuf) (uri : SecretUri) (secret : StoredSecret) :
    EnvDir :=
  let store := (dir.files path).getD DevStore.empty
  let written := Function.update store uri (some secret)
  { dir with files := Function.update dir.files path (some written) }

/-- The place under study: the library, the environment and its directory. -/
structure Site where
  lib : SecretsLib
  envId : EnvId
  envDir : PathBuf

def devStoreRelative : String := ".greentic/dev/.dev.secrets.env"

def devStoreStateRelative : String := ".greentic/state/dev/.dev.secrets.env"

def Site.resolveDevStorePath (site : Site) (files : PathBuf → Option DevStore) :
    Option PathBuf → PathBuf :=
  Credentials.resolveDevStorePath (fun path => (files path).isSome)
    (site.envDir ++ "/" ++ devStoreRelative) (site.envDir ++ "/" ++ devStoreStateRelative)

/-- `staged_dev_store_path`: the override does not count. -/
def Site.stagedDevStorePath (site : Site) (files : PathBuf → Option DevStore) : PathBuf :=
  site.resolveDevStorePath files none

inductive PutError
  | noSecretsPack (envId : EnvId)
  | secretPath (text : String)
  | emptyValue
  | invalidPath (error : SorError)
  | reserved (rel : String)
  | notYetImplemented
  deriving DecidableEq

inductive PutTarget
  | devStore (path : PathBuf) (uri : SecretUri)
  | vault (uri : SecretUri)
  deriving DecidableEq

def devStoreKindPath : String := "greentic.secrets.dev-store"

def vaultSecretsPath : String := "greentic.secrets.vault"

/-- A put at its write. The document it has loaded and the file it has resolved may
be out of date by then: it holds no lock. -/
structure Put where
  loaded : Environment
  storePath : PathBuf
  path : String
  value : String

def trimStartSlashes (path : String) : String := String.ofList (path.toList.dropWhile (· = '/'))

def requireSecretsPack (envId : EnvId) (env : Environment) : Except PutError EnvPackBinding :=
  match env.packForSlot .secrets with
  | some binding => .ok binding
  | none => .error (.noSecretsPack envId)

/-- `dev_store_put` refuses reserved keys once more. -/
def PutTarget.checked : PutTarget → Except PutError PutTarget
  | .devStore path uri => do
    ensure (splitStoreUri uri = none ∨ isReservedRelPath uri.relPath = false)
      (.reserved uri.relPath)
    .ok (.devStore path uri)
  | .vault uri => .ok (.vault uri)

/-- `put_env_secret` up to its write: the backend of the kind, and the key in it. -/
def Site.putEnvSecret (site : Site) (kindPath : String) (storePath : PathBuf) (rel : String) :
    Except PutError PutTarget := do
  ensure (kindPath = devStoreKindPath ∨ kindPath = vaultSecretsPath) .notYetImplemented
  (validateDevStoreSecretPath site.lib.formats rel).mapError .invalidPath
  let uri := devStoreKey site.envId rel
  (if kindPath = devStoreKindPath then PutTarget.devStore storePath uri else .vault uri).checked

/-- `put` up to its write. -/
def Site.put (site : Site) (run : Put) : Except PutError PutTarget := do
  let secrets ← requireSecretsPack site.envId run.loaded
  let rel := trimStartSlashes run.path
  let text := secretText site.envId.asStr rel
  ensure (site.lib.tryNew text).isSome (.secretPath text)
  ensure (run.value ≠ "") .emptyValue
  site.putEnvSecret secrets.kind.path run.storePath rel

/-- The write of a put that gets that far. -/
def Site.land (site : Site) (dir : EnvDir) (run : Put) : EnvDir :=
  match site.put run with
  | .ok (.devStore path uri) =>
    { dir.stored path uri ⟨run.value, .runtimePut⟩ with puts := (path, uri) :: dir.puts }
  | .ok (.vault _) | .error _ => dir

/-- What a handler's `bootstrap` returns. -/
structure BootstrapOutcome where
  rulesPack : String
  boundCredentialsRef : Option SecretRef
  boundExpiry : Option DateTime
  boundSecretMaterial : Option String
  deriving DecidableEq

/-- A `DeployerCredentials`, as far as it says where its credential lands. -/
structure Handler where
  boundCredentialStorePath : Option String
  deriving DecidableEq

inductive Call
  | load
  | resolveForSlot (kind : PackDescriptor)
  | bootstrap
  | now
  | writeRulesPack (kind : PackDescriptor) (pack : String)
  | secretSink (bound : SecretRef) (material : String)
  | save (env : Environment)
  | rotateAt (material : String)
  | loadSorUnits
  | loadSorLedger
  | exists (path : PathBuf)
  | copyExcluding (src : PathBuf) (uris : List SecretUri)

/-- `none` where a call fails. A registered kind may have no credentials handler. -/
abbrev Call.Reply : Call → Type
  | .load => Option Environment
  | .resolveForSlot _ => Option (Option Handler)
  | .bootstrap => Option BootstrapOutcome
  | .now => DateTime
  | .writeRulesPack _ _ => Option PathBuf
  | .secretSink _ _ | .save _ => Option Unit
  | .rotateAt _ => Option DateTime
  | .loadSorUnits => Option (List SorUnit)
  | .loadSorLedger => Option (List AppliedSorUnit)
  | .exists _ => Bool
  | .copyExcluding _ _ => Option DevStore

inductive FlowError
  | noDeployerBound (envId : EnvId)
  | alreadyBootstrapped (envId : EnvId)
  | notBootstrapped (envId : EnvId)
  | undeclaredCredentialPath (deployerKind : PackDescriptor) (declared : Option String)
      (landing : Option (String × List String))
  | handlerNotRegistered (kind : PackDescriptor)
  | rotationUnsupported (kind : PackDescriptor)
  | store
  | registry
  | bootstrap
  | rulesExport
  | secretWrite
  | sentinelRef
  | conflict
  deriving DecidableEq

abbrev Flow (α : Type) := Program.Fallible Call Call.Reply FlowError α

def orError {α : Type} (error : FlowError) : Option α → Except FlowError α
  | some value => .ok value
  | none => .error error

def deployerOf (envId : EnvId) (env : Environment) : Except FlowError EnvPackBinding :=
  orError (.noDeployerBound envId) (env.packForSlot .deployer)

structure CredentialsDoc where
  envId : EnvId
  deployerKind : PackDescriptor
  providedCredentialsRef : SecretRef
  lastRunAt : DateTime
  passed : Bool
  missingCapabilities : List String
  rulesPackRef : PathBuf
  expiresAt : Option DateTime
  deriving DecidableEq

def PackDescriptor.asStr (kind : PackDescriptor) : String := kind.path ++ "@" ++ kind.version

/-- The ref the document names: a sentinel where the handler bound none. -/
def Site.docRef (site : Site) (kind : PackDescriptor) (bound : Option SecretRef) :
    Except FlowError SecretRef :=
  match bound with
  | some ref => .ok ref
  | none => orError .sentinelRef (site.lib.tryNew
      (secretText site.envId.asStr (PackDescriptor.asStr kind ++ "/bootstrap-incomplete")))

def Site.document (site : Site) (kind : PackDescriptor) (outcome : BootstrapOutcome)
    (consumedAt : DateTime) (rulesPackRef : PathBuf) (docRef : SecretRef) : CredentialsDoc where
  envId := site.envId
  deployerKind := kind
  providedCredentialsRef := docRef
  lastRunAt := consumedAt
  passed := outcome.boundCredentialsRef.isSome
  missingCapabilities :=
    if outcome.boundCredentialsRef.isSome then [] else ["credentials.bind-pending"]
  rulesPackRef := rulesPackRef
  expiresAt := outcome.boundExpiry

/-- The check before anything is written, gated on the ref alone. -/
def Site.checkLanding (site : Site) (kind : PackDescriptor) (creds : Handler)
    (bound : Option SecretRef) : Except FlowError Unit :=
  match bound with
  | none => .ok ()
  | some bound =>
    (landingIsCovered site.lib bound site.envId creds.boundCredentialStorePath).mapError
      (.undeclaredCredentialPath kind creds.boundCredentialStorePath)

/-- The material before the reference to it. -/
def persistMaterial (outcome : BootstrapOutcome) : Flow PUnit :=
  match outcome.boundCredentialsRef, outcome.boundSecretMaterial with
  | some bound, some material => Program.ask (.secretSink bound material) (orError .secretWrite)
  | _, _ => pure ⟨⟩

def persistRef (env : Environment) (bound : Option SecretRef) : Flow PUnit :=
  match bound with
  | some bound =>
    Program.ask (.save { env with credentialsRef := some bound }) (orError .store)
  | none => pure ⟨⟩

def Site.runBootstrap (site : Site) (credsOverride : Option Handler) : Flow CredentialsDoc := do
  let env ← Program.ask .load (orError .store)
  let deployer ← Program.lift (deployerOf site.envId env)
  Program.lift (ensure (env.credentialsRef = none) (.alreadyBootstrapped site.envId))
  let registered ← Program.ask (.resolveForSlot deployer.kind) (orError .registry)
  let creds ← Program.lift
    (orError (.handlerNotRegistered deployer.kind) (credsOverride <|> registered))
  let outcome ← Program.ask .bootstrap (orError .bootstrap)
  let consumedAt ← Program.ask .now .ok
  let rulesPackRef ← Program.ask (.writeRulesPack deployer.kind outcome.rulesPack)
    (orError .rulesExport)
  Program.lift (site.checkLanding deployer.kind creds outcome.boundCredentialsRef)
  let docRef ← Program.lift (site.docRef deployer.kind outcome.boundCredentialsRef)
  persistMaterial outcome
  persistRef env outcome.boundCredentialsRef
  pure (site.document deployer.kind outcome consumedAt rulesPackRef docRef)

structure RotateOutcome where
  credentialsRef : SecretRef
  expiry : Option (DateTime × Option DateTime)
  deriving DecidableEq

def mintedMaterial (kind : PackDescriptor) (outcome : BootstrapOutcome) : Except FlowError String :=
  match outcome.boundCredentialsRef, outcome.boundSecretMaterial with
  | some _, some material => .ok material
  | _, _ => .error (.rotationUnsupported kind)

def rotatedExpiry (material : String) : Option DateTime → Flow (Option (DateTime × Option DateTime))
  | none => pure none
  | some expiresAt => do
    let rotateAt ← Program.ask (.rotateAt material) .ok
    pure (some (expiresAt, rotateAt))

/-- `run_rotate`: the fresh material goes where the environment's reference points. -/
def Site.runRotate (site : Site) : Flow RotateOutcome := do
  let env ← Program.ask .load (orError .store)
  let deployer ← Program.lift (deployerOf site.envId env)
  let activeRef ← Program.lift (orError (.notBootstrapped site.envId) env.credentialsRef)
  let _ ← Program.ask (.resolveForSlot deployer.kind) (orError .registry)
  let outcome ← Program.ask .bootstrap (orError .bootstrap)
  let material ← Program.lift (mintedMaterial deployer.kind outcome)
  Program.ask (.secretSink activeRef material) (orError .secretWrite)
  let expiry ← rotatedExpiry material outcome.boundExpiry
  pure ⟨activeRef, expiry⟩

/-- `read_dev_secrets_bytes`, its file resolved before the lock is taken. -/
def Site.readDevSecretsBytes (site : Site) (src : PathBuf) : Flow (Option DevStore) := do
  let env ← Program.ask .load (orError .conflict)
  let sorUnits ← Program.ask .loadSorUnits (orError .conflict)
  let sorLedger ← Program.ask .loadSorLedger (orError .conflict)
  let present ← Program.ask (.exists src) .ok
  if present then do
    let seed ← Program.ask
      (.copyExcluding src
        (stagingExcludedUris site.lib env ++ sorInputUris site.envId sorUnits sorLedger))
      (orError .conflict)
    pure (some seed)
  else pure none

/-- A write that fails may have landed all the same. -/
inductive Fault
  | none
  | lost
  | landed
  deriving DecidableEq

/-- What meets a call: the puts that land before it, the override its process runs
with, whether it fails, and what others answer. -/
structure Input where
  meanwhile : List Put
  overridePath : Option PathBuf
  fault : Fault
  registered : Option Handler
  minted : BootstrapOutcome
  time : DateTime
  rotateAt : Option DateTime

def Fault.reply {α : Type} (fault : Fault) (value : α) : Option α :=
  if fault = .none then some value else Option.none

def Fault.write (fault : Fault) (before after : EnvDir) : Option Unit × EnvDir :=
  (fault.reply (), if fault = .lost then before else after)

def Site.putCredentialMaterial (site : Site) (dir : EnvDir) (overridePath : Option PathBuf)
    (bound : SecretRef) (material : String) : Option EnvDir :=
  (site.lib.toStoreUri bound).map fun uri =>
    dir.stored (site.resolveDevStorePath dir.files overridePath) uri ⟨material, .credentialSink⟩

def Site.perform (site : Site) (input : Input) (dir : EnvDir) :
    (call : Call) → call.Reply × EnvDir
  | .load =>
    (if dir.environment.environmentId = site.envId then input.fault.reply dir.environment
      else none, dir)
  | .resolveForSlot _ => (input.fault.reply input.registered, dir)
  | .bootstrap => (input.fault.reply input.minted, dir)
  | .now => (input.time, dir)
  | .writeRulesPack kind _ => (input.fault.reply ("rules/" ++ kind.path), dir)
  | .secretSink bound material =>
    match site.putCredentialMaterial dir input.overridePath bound material with
    | some after => input.fault.write dir after
    | none => (none, dir)
  | .save env => input.fault.write dir { dir with environment := env }
  | .rotateAt _ => (input.rotateAt, dir)
  | .loadSorUnits => (input.fault.reply dir.sorUnits, dir)
  | .loadSorLedger => (input.fault.reply dir.sorLedger, dir)
  | .exists path => ((dir.files path).isSome, dir)
  | .copyExcluding src uris =>
    ((dir.files src).bind fun store => input.fault.reply (copyExcluding store uris), dir)

/-- The puts land, then the call is made. -/
def Site.exec (site : Site) (input : Input) (dir : EnvDir) (call : Call) : call.Reply × EnvDir :=
  site.perform input (input.meanwhile.foldl site.land dir) call

/-- A turn of the environment. A flow makes as many calls as its schedule has inputs,
so it may be cut off anywhere; an edit is whatever else rewrites the documents. -/
inductive Turn
  | bootstrap (credsOverride : Option Handler) (schedule : List Input)
  | rotate (schedule : List Input)
  | stage (src : PathBuf) (schedule : List Input)
  | put (run : Put)
  | edit (environment : Environment) (sorUnits : List SorUnit) (sorLedger : List AppliedSorUnit)

def Site.step (site : Site) (dir : EnvDir) : Turn → EnvDir
  | .bootstrap credsOverride schedule =>
    (site.runBootstrap credsOverride).run.cut site.exec dir schedule
  | .rotate schedule => site.runRotate.run.cut site.exec dir schedule
  | .stage src schedule => (site.readDevSecretsBytes src).run.cut site.exec dir schedule
  | .put run => site.land dir run
  | .edit environment sorUnits sorLedger => { dir with environment, sorUnits, sorLedger }

/-- Nothing but a bootstrap changes the reference. -/
def Turn.Keeps (dir : EnvDir) : Turn → Prop
  | .edit environment _ _ => environment.credentialsRef = dir.environment.credentialsRef
  | .bootstrap _ _ | .rotate _ | .stage _ _ | .put _ => True

instance (dir : EnvDir) : ∀ turn : Turn, Decidable (turn.Keeps dir)
  | .edit environment _ _ => inferInstanceAs
      (Decidable (environment.credentialsRef = dir.environment.credentialsRef))
  | .bootstrap _ _ | .rotate _ | .stage _ _ | .put _ => .isTrue trivial

def Site.system (site : Site) : System EnvDir Turn where
  step := site.step
  allowed := fun dir turn => turn.Keeps dir

instance (site : Site) (dir : EnvDir) (turn : Turn) : Decidable (site.system.allowed dir turn) :=
  inferInstanceAs (Decidable (turn.Keeps dir))

end GreenticDeployer.Credentials
