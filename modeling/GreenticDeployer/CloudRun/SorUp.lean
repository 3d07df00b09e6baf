import GreenticDeployer.CloudRun.Intent
import GreenticDeployer.Lib.Programs
import GreenticDeployer.Local.PolicyFiles
import GreenticDeployer.Sor.Reconcile

/-!
# Bringing SoR units up on Cloud Run

A bring-up run deploys each unit unless the live service already runs its
intent, waits for each, opens it and hands out its route. Runs of several
environments work on one project, call by call.
-/

set_option maxHeartbeats 200000

namespace GreenticDeployer.CloudRun

open Lib
open Intent (ScalingSpec SecretEnvVar SecretMount)
open Local (Turn)
open Sor (SorUnit SorUnitInputs SorUnitRender CloudRunSorPlacement)

structure SorServiceRef where
  project : String
  region : String
  name : String
  deriving DecidableEq

structure SorServiceLabels where
  owner : String
  unitId : String
  intent : String
  deriving DecidableEq

structure SorServiceSpec where
  service : SorServiceRef
  image : String
  args : List String
  port : Nat
  runtimeServiceAccount : String
  env : List (String × String)
  secretEnv : List SecretEnvVar
  secretMounts : List SecretMount
  scaling : ScalingSpec
  healthPath : String
  labels : SorServiceLabels
  deriving DecidableEq

/-- How far a service's latest revision is, as the provider reports it. -/
structure Rollout where
  ready : Bool
  reconciling : Bool
  url : Option String
  notReadyReason : Option String
  logUri : Option String
  deriving DecidableEq

/-- What the project keeps of a service. The etag is an opaque token, numbered here in
the order the tokens are given out. -/
structure LiveSor where
  etag : Nat
  owner : Option String
  intent : Option String
  deriving DecidableEq

structure SorServiceStatus extends LiveSor, Rollout
  deriving DecidableEq

def SorServiceStatus.failed (status : SorServiceStatus) : Bool :=
  !status.ready && !status.reconciling

structure ArRepository where
  project : String
  location : String
  repository : String
  deriving DecidableEq

inductive SorTargetError
  | api (message : String)
  | notFound (resource : String)
  | preconditionFailed
  | unconfigured
  deriving DecidableEq

inductive EnsuredSecret
  | created
  | existed (owner : Option String)
  deriving DecidableEq

def sorPort : Nat := 8787

def sorHealthPath : String := "/healthz"

def sorCaMountDir : String := "/etc/sorx/postgres-ca"

def sorCaFile : String := "ca.pem"

def arHostSuffix : String := "-docker.pkg.dev"

def sorScaling : ScalingSpec := ⟨"1", "512Mi", 0, 1, 80, false⟩

def sorArgs (packRef : String) : List String :=
  ["start", packRef, "--answers", "env:SORX_ANSWERS", "--non-interactive"]

def sorServiceRef (placement : CloudRunSorPlacement) : SorServiceRef :=
  ⟨placement.project, placement.region, placement.service⟩

structure IntentFields where
  image : String
  packRef : String
  runtimeServiceAccount : String
  inputsHash : String
  secret : String
  port : Nat
  healthPath : String
  scaling : ScalingSpec

/-- SHA-256, in the three ways a bring-up run uses it. -/
structure Digests where
  envId : String → String
  inputs : SorUnitInputs → String
  intent : IntentFields → String

structure StagedVersions where
  answers : String
  postgresUrl : String
  sharedSecret : String
  postgresCa : Option String

structure PlacedSorUnit where
  render : SorUnitRender
  placement : CloudRunSorPlacement

def PlacedSorUnit.service (unit : PlacedSorUnit) : SorServiceRef := sorServiceRef unit.placement

/-- The segment of a pack's path before a tag or digest. -/
def untagged (segment : String) : String :=
  String.ofList (segment.toList.takeWhile fun c => c ≠ '@' ∧ c ≠ ':')

/-- The parts of a text between the places where a character stands. -/
def splitAtChar (sep : Char) (text : String) : List String :=
  (text.toList.splitOn sep).map String.ofList

def nonEmpty (text : String) : Option String := if text = "" then none else some text

def stripHostSuffix (host : String) : Option String :=
  let before := host.length - arHostSuffix.length
  if host.toList.drop before = arHostSuffix.toList then
    nonEmpty (String.ofList (host.toList.take before))
  else none

/-- The Artifact Registry repository a pack lives in, `none` for any other registry. -/
def arRepository (packRef : String) : Option ArRepository :=
  if packRef.toList.take 6 ≠ "oci://".toList then none
  else match splitAtChar '/' (String.ofList (packRef.toList.drop 6)) with
    | host :: project :: repository :: _ => do
      let location ← stripHostSuffix host
      let project ← nonEmpty project
      let repository ← nonEmpty (untagged repository)
      return ⟨project, location, repository⟩
    | _ => none

section Specs

variable (digests : Digests)

def stampChar (c : Char) : Char := if c.isAlphanum ∨ c = '-' ∨ c = '_' then c else '-'

def envOwnerStamp (envId : String) : String :=
  String.ofList ((envId.toLower.toList.map stampChar).take 10) ++ "-" ++ digests.envId envId

def sorIntent (unit : SorUnit) (inputs : SorUnitInputs) (runtimeServiceAccount : String)
    (placement : CloudRunSorPlacement) : String :=
  digests.intent ⟨unit.image, unit.packRef, runtimeServiceAccount, digests.inputs inputs,
    placement.secret, sorPort, sorHealthPath, sorScaling⟩

end Specs

def caEnv (staged : StagedVersions) : List (String × String) :=
  staged.postgresCa.toList.map fun _ =>
    ("SORX_POSTGRES_CA_FILE", sorCaMountDir ++ "/" ++ sorCaFile)

def caMount (secret : String) (staged : StagedVersions) : List SecretMount :=
  staged.postgresCa.toList.map fun version => ⟨sorCaMountDir, secret, [⟨version, sorCaFile⟩]⟩

def sorServiceSpec (unit : PlacedSorUnit) (runtimeServiceAccount owner intent : String)
    (staged : StagedVersions) : SorServiceSpec where
  service := unit.service
  image := unit.render.unit.image
  args := sorArgs unit.render.unit.packRef
  port := sorPort
  runtimeServiceAccount := runtimeServiceAccount
  env := ("HOME", "/tmp") :: caEnv staged
  secretEnv := [⟨"SORX_ANSWERS", unit.placement.secret, staged.answers⟩,
    ⟨"SORX_POSTGRES_URL", unit.placement.secret, staged.postgresUrl⟩,
    ⟨"SORX_SHARED_SECRET", unit.placement.secret, staged.sharedSecret⟩]
  secretMounts := caMount unit.placement.secret staged
  scaling := sorScaling
  healthPath := sorHealthPath
  labels := ⟨owner, unit.render.unit.unitId, intent⟩

/-- `etagOf` is the read that an upsert makes for the etag it sends; the provider
answers it as it does `getSorService`. -/
inductive SorCall
  | getSorService (service : SorServiceRef)
  | etagOf (spec : SorServiceSpec)
  | upsertSorService (spec : SorServiceSpec) (etag : Option Nat)
  | setSorInvokerPublic (service : SorServiceRef)
  | grantArtifactRegistryReader (repo : ArRepository) (serviceAccount : String)
  | ensureSecret (name owner : String)
  | addSecretVersion (name value : String)
  | grantSecretAccessor (name serviceAccount : String)

@[reducible] def SorCall.Reply : SorCall → Type
  | getSorService _ | etagOf _ => Except SorTargetError (Option SorServiceStatus)
  | upsertSorService _ _ | setSorInvokerPublic _ | grantArtifactRegistryReader _ _
  | grantSecretAccessor _ _ => Except SorTargetError Unit
  | ensureSecret _ _ => Except SorTargetError EnsuredSecret
  | addSecretVersion _ _ => Except SorTargetError String

structure SorSecret where
  owner : Option String
  versions : List String

structure AcceptedUpsert where
  spec : SorServiceSpec
  replaced : Option LiveSor
  deriving DecidableEq

/-- The provider's side of a project. No service carries an etag not yet given out. -/
structure SorProject where
  live : SorServiceRef → Option LiveSor
  etagCounter : Nat
  secrets : String → Option SorSecret
  accepted : List AcceptedUpsert
  given : ∀ service found, live service = some found → found.etag ≤ etagCounter

/-- How a call goes, the error of one that fails, and how far a service that is shown is. -/
structure SorAnswers where
  turn : Turn
  error : SorTargetError
  rollout : Rollout

def SorAnswers.reply {α : Type} (answers : SorAnswers) (value : α) : Except SorTargetError α :=
  match answers.turn with
  | .done => .ok value
  | .failed _ => .error answers.error

namespace SorProject

variable (project : SorProject)

/-- The etag rule: an update must send the live etag, a create must find nothing. -/
def refuses (spec : SorServiceSpec) (etag : Option Nat) : Option SorTargetError :=
  match project.live spec.service, etag with
  | some live, some sent => if live.etag = sent then none else some .preconditionFailed
  | some _, none => some .preconditionFailed
  | none, some _ => some (.notFound spec.service.name)
  | none, none => none

/-- An accepted write gets a fresh etag and carries the writer's labels. -/
def deploy (spec : SorServiceSpec) : SorProject where
  live := Function.update project.live spec.service
    (some ⟨project.etagCounter + 1, some spec.labels.owner, some spec.labels.intent⟩)
  etagCounter := project.etagCounter + 1
  secrets := project.secrets
  accepted := project.accepted ++ [⟨spec, project.live spec.service⟩]
  given := by
    intro service found shown
    by_cases same : service = spec.service
    · subst same
      rw [Function.update_self] at shown
      cases shown
      exact le_rfl
    · rw [Function.update_of_ne same] at shown
      exact (project.given service found shown).trans (Nat.le_succ _)

theorem deploy_live_self (spec : SorServiceSpec) : (project.deploy spec).live spec.service =
    some ⟨project.etagCounter + 1, some spec.labels.owner, some spec.labels.intent⟩ :=
  Function.update_self ..

theorem deploy_live_of_ne {spec : SorServiceSpec} {service : SorServiceRef}
    (other : service ≠ spec.service) : (project.deploy spec).live service = project.live service :=
  Function.update_of_ne other ..

def putSecret (name : String) (secret : SorSecret) : SorProject :=
  { project with secrets := Function.update project.secrets name (some secret) }

def show_ (answers : SorAnswers) (service : SorServiceRef) : Option SorServiceStatus :=
  (project.live service).map fun live => ⟨live, answers.rollout⟩

/-- A secret is stamped when it is created, and never after. -/
def ensured (name owner : String) : EnsuredSecret × SorProject :=
  match project.secrets name with
  | some live => (.existed live.owner, project)
  | none => (.created, project.putSecret name ⟨some owner, []⟩)

def wrote {α : Type} (answers : SorAnswers) (value : α) (after : SorProject) :
    Except SorTargetError α × SorProject :=
  (answers.reply value, if answers.turn.effective then after else project)

def exec (answers : SorAnswers) (project : SorProject) : (call : SorCall) → call.Reply × SorProject
  | .getSorService service => (answers.reply (project.show_ answers service), project)
  | .etagOf spec => (answers.reply (project.show_ answers spec.service), project)
  | .upsertSorService spec etag =>
    match project.refuses spec etag with
    | some error => (.error error, project)
    | none => project.wrote answers () (project.deploy spec)
  | .ensureSecret name owner =>
    project.wrote answers (project.ensured name owner).1 (project.ensured name owner).2
  | .addSecretVersion name value =>
    match project.secrets name with
    | none => (.error (.notFound name), project)
    | some secret =>
      project.wrote answers (toString (secret.versions.length + 1))
        (project.putSecret name { secret with versions := secret.versions ++ [value] })
  | .setSorInvokerPublic _ | .grantArtifactRegistryReader _ _ | .grantSecretAccessor _ _ =>
    (answers.reply (), project)

end SorProject

inductive SorUpError
  | provider (error : SorTargetError)
  | serviceConflict (name : String) (liveOwner : Option String) (ours : String)
  | secretConflict (name owner ours : String)
  | secretUnstamped (name : String)
  | lostEtagRace (name : String)
  | disappeared (name : String)
  | notReady (name : String) (rollout : Rollout) (timedOut : Bool)
  | noUrl (name : String)
  deriving DecidableEq

abbrev BringingUp (α : Type) := Program.Fallible SorCall SorCall.Reply SorUpError α

def provider {α : Type} (answer : Except SorTargetError α) : Except SorUpError α :=
  answer.mapError .provider

def maxSorEtagRetries : Nat := 5

structure RouteDocument where
  sor : String
  url : String
  token : String
  tenant : String
  deriving DecidableEq

structure SorUnitStatus where
  unitId : String
  sor : String
  service : String
  url : String
  ready : Bool
  deriving DecidableEq

structure SorUpOutcome where
  statuses : List SorUnitStatus
  routes : List RouteDocument
  notes : List String
  deriving DecidableEq

/-- A run: its environment, its units, and how often each service is asked for before
its deadline. -/
structure BringUp where
  envId : String
  runtimeServiceAccount : String
  polls : SorServiceRef → Nat
  units : List PlacedSorUnit

section Program

variable (digests : Digests) (run : BringUp)

def BringUp.stamp : String := envOwnerStamp digests run.envId

def addVersion (name value : String) : BringingUp String :=
  Program.ask (.addSecretVersion name value) provider

def addOptionalVersion (name : String) : Option String → BringingUp (Option String)
  | some value => some <$> addVersion name value
  | none => return none

def clearOwner (name : String) : EnsuredSecret → Except SorUpError Unit
  | .created => .ok ()
  | .existed (some live) =>
    if live = run.stamp digests then .ok ()
    else .error (.secretConflict name live (run.stamp digests))
  | .existed none => .error (.secretUnstamped name)

def stageInputs (unit : PlacedSorUnit) : BringingUp StagedVersions := do
  let name := unit.placement.secret
  let ensured ← Program.ask (.ensureSecret name (run.stamp digests)) provider
  Program.lift (clearOwner digests run name ensured)
  let answers ← addVersion name unit.render.inputs.answers
  let postgresUrl ← addVersion name unit.render.inputs.postgresUrl
  let sharedSecret ← addVersion name unit.render.inputs.sharedSecret
  let postgresCa ← addOptionalVersion name unit.render.inputs.postgresCa
  Program.ask (.grantSecretAccessor name run.runtimeServiceAccount) provider
  return ⟨answers, postgresUrl, sharedSecret, postgresCa⟩

/-- Best effort: a refusal is a note. -/
def grantPackRead (unit : SorUnit) : BringingUp (List String) :=
  match arRepository unit.packRef with
  | none => return []
  | some repo =>
    Program.ask (.grantArtifactRegistryReader repo run.runtimeServiceAccount) fun reply =>
      match reply with
      | .ok _ => .ok []
      | .error _ => .ok [unit.unitId]

/-- One turn of the etag loop: whether the upsert was accepted. -/
def upsertOnce (spec : SorServiceSpec) : BringingUp Bool := do
  let live ← Program.ask (.etagOf spec) provider
  Program.ask (.upsertSorService spec (live.map fun status => status.etag)) fun reply =>
    match reply with
    | .ok _ => .ok true
    | .error .preconditionFailed => .ok false
    | .error error => .error (.provider error)

def upsert (spec : SorServiceSpec) : Nat → BringingUp Unit
  | 0 => do
    let accepted ← upsertOnce spec
    Program.lift (if accepted then .ok () else .error (.lostEtagRace spec.service.name))
  | retries + 1 => do
    let accepted ← upsertOnce spec
    if accepted then pure () else upsert spec retries

/-- Stage the inputs and write the service. -/
def deployUnit (unit : PlacedSorUnit) (intent : String) : BringingUp (List String) := do
  let staged ← stageInputs digests run unit
  let notes ← grantPackRead run unit.render.unit
  upsert (sorServiceSpec unit run.runtimeServiceAccount (run.stamp digests) intent staged)
    maxSorEtagRetries
  return notes

/-- A live service must be this environment's; one whose latest revision failed is
deployed again. -/
def convergeLive (unit : PlacedSorUnit) (intent : String) (live : SorServiceStatus) :
    BringingUp (List String) :=
  if live.owner ≠ some (run.stamp digests) then
    throw (.serviceConflict unit.service.name live.owner (run.stamp digests))
  else if live.intent = some intent ∧ live.failed = false then return []
  else deployUnit digests run unit intent

/-- Deploy one unit unless the live service already runs exactly this intent. -/
def converge (unit : PlacedSorUnit) : BringingUp (List String) := do
  let intent := sorIntent digests unit.render.unit unit.render.inputs run.runtimeServiceAccount
    unit.placement
  match ← Program.ask (.getSorService unit.service) provider with
  | none => deployUnit digests run unit intent
  | some live => convergeLive digests run unit intent live

def convergeAll : List PlacedSorUnit → BringingUp (List String)
  | [] => return []
  | unit :: rest => do
    let notes ← converge digests run unit
    let more ← convergeAll rest
    return notes ++ more

/-- What one look at an awaited service says: it must be there and not have failed. -/
def settled (service : SorServiceRef) : Option SorServiceStatus → Except SorUpError SorServiceStatus
  | none => .error (.disappeared service.name)
  | some status =>
    if status.failed then .error (.notReady service.name status.toRollout false) else .ok status

def awaited (service : SorServiceRef) : BringingUp SorServiceStatus := do
  let found ← Program.ask (.getSorService service) provider
  Program.lift (settled service found)

def waitReady (service : SorServiceRef) : Nat → BringingUp SorServiceStatus
  | 0 => do
    let status ← awaited service
    if status.ready then return status
    else throw (.notReady service.name status.toRollout true)
  | polls + 1 => do
    let status ← awaited service
    if status.ready then return status else waitReady service polls

/-- `trim_end_matches('/')`. -/
def trimSlashes (url : String) : String :=
  String.ofList ((url.toList.reverse.dropWhile (· = '/')).reverse)

def serviceUrl (service : SorServiceRef) (status : SorServiceStatus) : Except SorUpError String :=
  match (status.url.map trimSlashes).bind nonEmpty with
  | some url => .ok url
  | none => .error (.noUrl service.name)

def openUnit (unit : PlacedSorUnit) : BringingUp (SorUnitStatus × RouteDocument) := do
  let status ← waitReady unit.service (run.polls unit.service)
  Program.ask (.setSorInvokerPublic unit.service) provider
  let url ← Program.lift (serviceUrl unit.service status)
  return (⟨unit.render.unit.unitId, unit.render.unit.sor, unit.service.name, url, true⟩,
    ⟨unit.render.unit.sor, url, unit.render.inputs.sharedSecret, unit.render.unit.tenantId⟩)

def openAll : List PlacedSorUnit → BringingUp (List (SorUnitStatus × RouteDocument))
  | [] => return []
  | unit :: rest => do
    let opened ← openUnit run unit
    let more ← openAll rest
    return opened :: more

def bringUp : BringingUp SorUpOutcome := do
  let notes ← convergeAll digests run run.units
  let opened ← openAll run run.units
  return ⟨opened.map (·.1), opened.map (·.2), notes⟩

end Program

end GreenticDeployer.CloudRun
