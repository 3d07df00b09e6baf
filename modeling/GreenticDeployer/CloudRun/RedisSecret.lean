import GreenticDeployer.Lib.Runs
import GreenticDeployer.Lib.Sessions
import Mathlib.Data.List.Sort

/-!
# The Redis URL's secret

The URL lives in a Secret Manager secret of its own. A warm re-uses the newest
enabled version that holds the answered URL or adds one, pins it into the
revision it creates, and, once that revision is ready and only if it added a
version, destroys older ones.
-/

set_option maxHeartbeats 200000

namespace GreenticDeployer.CloudRun

open Lib (Session)

abbrev Payload := List UInt8

/-- One immutable version. Destroying it disables it and clears its payload. -/
structure SecretVersion where
  payload : Payload
  enabled : Bool
  destroyed : Bool
  deriving DecidableEq

/-- A secret of the provider: version `n` is at index `n - 1`. -/
structure StoredSecret where
  owner : Option String
  versions : List SecretVersion
  deriving DecidableEq

structure SecretVersionInfo where
  version : Nat
  enabled : Bool
  deriving DecidableEq

def enabledVersions (listed : List SecretVersionInfo) : List Nat :=
  (listed.filter SecretVersionInfo.enabled).map SecretVersionInfo.version

namespace StoredSecret

def listSecretVersions (secret : StoredSecret) : List SecretVersionInfo :=
  (secret.versions.zipIdx 1).map fun entry => ⟨entry.2, entry.1.enabled⟩

/-- `access_secret_version` with a number: only an enabled version is readable. -/
def accessSecretVersion (secret : StoredSecret) (version : Nat) : Option Payload :=
  if version = 0 then none
  else ((secret.versions[version - 1]?).filter SecretVersion.enabled).map SecretVersion.payload

/-- The provider resolves `latest` to the newest enabled version. -/
def latestEnabled (secret : StoredSecret) : Option Nat :=
  (enabledVersions secret.listSecretVersions).getLast?

def addSecretVersion (secret : StoredSecret) (payload : Payload) : StoredSecret :=
  { secret with versions := secret.versions ++ [⟨payload, true, false⟩] }

def destroySecretVersion (secret : StoredSecret) (version : Nat) : StoredSecret :=
  if version = 0 then secret
  else { secret with versions := secret.versions.modify (version - 1) fun _ => ⟨[], false, true⟩ }

end StoredSecret

/-- What the provider answers during one warm. Listing, reading and destroying
versions are optional permissions and may be refused, each version on its own;
`create` stands for the rest of the warm up to the invoker grant. -/
structure ProviderAnswers where
  ensure : Bool
  listForReuse : Bool
  access : Nat → Bool
  add : Bool
  grant : Bool
  create : Bool
  listForPrune : Bool
  destroy : Nat → Bool

inductive WarmError
  | provider
  | secretConflict (owner : String)
  deriving DecidableEq

/-- The secret, and the version the latest successful warm pinned. -/
structure RedisState where
  secret : Option StoredSecret
  pinned : Option Nat
  deriving DecidableEq

structure StagedRedisUrl where
  version : Nat
  minted : Bool

structure WarmInput where
  redisUrl : Option Payload
  answers : ProviderAnswers

/-- The versions `reusable_version` reads, newest first; without `list` the one
that `latest` resolves to. -/
def reuseCandidates (answers : ProviderAnswers) (secret : StoredSecret) : List Nat :=
  if answers.listForReuse then
    (enabledVersions secret.listSecretVersions).insertionSort (· ≥ ·)
  else secret.latestEnabled.toList

def reusableVersion (answers : ProviderAnswers) (secret : StoredSecret) (url : Payload) :
    Option Nat :=
  (reuseCandidates answers secret).find? fun version =>
    answers.access version && decide (secret.accessSecretVersion version = some url)

/-- `versions_to_destroy`: every enabled version older than the newest enabled
one below `current`. -/
def versionsToDestroy (listed : List SecretVersionInfo) (current : Nat) : List Nat :=
  (((enabledVersions listed).filter (· < current)).insertionSort (· ≤ ·)).dropLast

/-- `prune_after_ready`: best effort, a refused destroy leaves its version. -/
def pruneAfterReady (answers : ProviderAnswers) (secret : StoredSecret) (current : Nat) :
    StoredSecret :=
  if answers.listForPrune then
    (versionsToDestroy secret.listSecretVersions current).foldl
      (fun pruned version =>
        if answers.destroy version then pruned.destroySecretVersion version else pruned)
      secret
  else secret

def permitted (allowed : Bool) : Session RedisState WarmError PUnit :=
  .lift (if allowed then .ok ⟨⟩ else .error .provider)

/-- Ensure the secret, created with this environment's stamp; one that exists
must carry that stamp. -/
def ensureOwnSecret (stamp : String) : Session RedisState WarmError StoredSecret :=
  .act fun state =>
    match state.secret with
    | none => (.ok ⟨some stamp, []⟩, { state with secret := some ⟨some stamp, []⟩ })
    | some secret =>
      match secret.owner with
      | some live =>
        if live = stamp then (.ok secret, state) else (.error (.secretConflict live), state)
      | none => (.error (.secretConflict "(no owner stamp)"), state)

def putSecret (secret : StoredSecret) : Session RedisState WarmError PUnit :=
  .act fun state => (.ok ⟨⟩, { state with secret := some secret })

def pin (version : Option Nat) : Session RedisState WarmError PUnit :=
  .act fun state => (.ok ⟨⟩, { state with pinned := version })

/-- Re-use a version that holds `url`, or add one. -/
def reuseOrAdd (answers : ProviderAnswers) (secret : StoredSecret) (url : Payload) :
    Session RedisState WarmError (StoredSecret × StagedRedisUrl) :=
  match reusableVersion answers secret url with
  | some version => pure (secret, ⟨version, false⟩)
  | none => do
    permitted answers.add
    putSecret (secret.addSecretVersion url)
    pure (secret.addSecretVersion url, ⟨secret.versions.length + 1, true⟩)

def stage (stamp : String) (answers : ProviderAnswers) (url : Payload) :
    Session RedisState WarmError (StoredSecret × StagedRedisUrl) := do
  permitted answers.ensure
  let secret ← ensureOwnSecret stamp
  let staged ← reuseOrAdd answers secret url
  permitted answers.grant
  pure staged

def pruneIfMinted (answers : ProviderAnswers) (secret : StoredSecret) (staged : StagedRedisUrl) :
    Session RedisState WarmError PUnit :=
  if staged.minted then putSecret (pruneAfterReady answers secret staged.version) else pure ⟨⟩

/-- A warm that creates a new revision. An error leaves the versions it had
added so far. -/
def warm (stamp : String) (input : WarmInput) : Session RedisState WarmError PUnit :=
  match input.redisUrl with
  | none => do
    permitted input.answers.create
    pin none
  | some url => do
    let staged ← stage stamp input.answers url
    permitted input.answers.create
    pin (some staged.2.version)
    pruneIfMinted input.answers staged.1 staged.2

/-- Successful warms of one environment, one after the other. -/
def warms (stamp : String) : Lib.System RedisState WarmInput where
  step := fun state input => ((warm stamp input).on state).2
  allowed := fun state input => ((warm stamp input).on state).1 = .ok ⟨⟩

namespace StoredSecret

variable (secret : StoredSecret)

end StoredSecret

namespace RedisState

/-- The secret as a warm finds or creates it. -/
def ensured (stamp : String) (state : RedisState) : StoredSecret :=
  state.secret.getD ⟨some stamp, []⟩

end RedisState

end GreenticDeployer.CloudRun
