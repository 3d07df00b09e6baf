import GreenticDeployer.Lib.Crash
import GreenticDeployer.Local.PolicyFiles
import GreenticDeployer.Sor.Cluster

/-!
# The SoR reconcile

`prepare`, the reconcile of the cluster, and `record_applied`, as one program
over the environment's sidecars, its dev store and the cluster. Any call may
fail, and a failed change may have taken effect.
-/

set_option maxHeartbeats 200000

namespace GreenticDeployer.Sor

open Spec Lib
open Local (Turn)

/-- `sor-units.json`, `sor-units.applied.json`, the cluster's objects and the
environment's dev store. -/
structure World where
  units : List SorUnit
  ledger : List AppliedSorUnit
  objects : ObjectRef → Option ClusterObject
  secrets : SecretUri → Option String

inductive SorCall
  | loadUnits
  | loadLedger
  | saveLedger (ledger : List AppliedSorUnit)
  | getSecret (uri : SecretUri)
  | putSecret (uri : SecretUri) (value : String)
  | deleteSecret (uri : SecretUri)
  | readSeed
  | apply (manifest : Manifest)
  | delete (ref : ObjectRef)
  | deleteIfLabeled (ref : ObjectRef) (component : String)
  | waitForRollout (deployment : ObjectRef)

@[reducible] def SorCall.Reply : SorCall → Type
  | loadUnits => Option (List SorUnit)
  | loadLedger => Option (List AppliedSorUnit)
  | getSecret _ => Option (Option String)
  | _ => Option Unit

def change (turn : Turn) (world changed : World) : Option Unit × World :=
  (turn.reply, if turn.effective then changed else world)

/-- The API server keeps a Secret's type. -/
def World.takes (world : World) (manifest : Manifest) : Bool :=
  (world.objects manifest.ref).all fun live => live.secretType = manifest.object.secretType

def World.applied (world : World) (manifest : Manifest) : World :=
  { world with objects := Function.update world.objects manifest.ref (some manifest.object) }

def World.deleted (world : World) (ref : ObjectRef) : World :=
  { world with objects := Function.update world.objects ref none }

/-- A key of the dev store takes a value or loses it. -/
def World.stored (world : World) (uri : SecretUri) (value : Option String) : World :=
  { world with secrets := Function.update world.secrets uri value }

def access (turn : Turn) (world : World) : (call : SorCall) → call.Reply × World
  | .loadUnits => (turn.reply.map fun _ => world.units, world)
  | .loadLedger => (turn.reply.map fun _ => world.ledger, world)
  | .saveLedger ledger => change turn world { world with ledger := ledger }
  | .getSecret uri => (turn.reply.map fun _ => world.secrets uri, world)
  | .putSecret uri value => change turn world (world.stored uri (some value))
  | .deleteSecret uri => change turn world (world.stored uri none)
  | .readSeed => (turn.reply, world)
  | .apply manifest =>
    if world.takes manifest then change turn world (world.applied manifest) else (none, world)
  | .delete ref => change turn world (world.deleted ref)
  | .deleteIfLabeled ref component =>
    if (world.objects ref).any fun live => live.component = component then
      change turn world (world.deleted ref)
    else (turn.reply, world)
  | .waitForRollout _ => (turn.reply, world)

abbrev Deploying (α : Type) := Program.Fallible SorCall SorCall.Reply SorError α

def attempt (call : SorCall) {α : Type} (outcome : call.Reply → Option α) : Deploying α :=
  Program.ask call fun reply =>
    match outcome reply with
    | some value => .ok value
    | none => .error .provider

def apply (manifest : Manifest) : Deploying Unit := attempt (.apply manifest) id

def delete (ref : ObjectRef) : Deploying Unit := attempt (.delete ref) id

section Formats

variable (formats : Formats)

def getEnvSecret (envId : EnvId) (rel : String) : Deploying (Option String) := do
  Program.lift (validateDevStoreSecretPath formats rel)
  attempt (.getSecret (devStoreKey envId rel)) id

def putEnvSecret (envId : EnvId) (rel value : String) : Deploying Unit := do
  Program.lift (validateDevStoreSecretPath formats rel)
  attempt (.putSecret (devStoreKey envId rel) value) id

def deleteEnvSecret (envId : EnvId) (rel : String) : Deploying Unit := do
  Program.lift (validateDevStoreSecretPath formats rel)
  attempt (.deleteSecret (devStoreKey envId rel)) id

structure SorUnitInputs where
  answers : String
  postgresUrl : String
  postgresCa : Option String
  sharedSecret : String

structure SorUnitRender where
  unit : SorUnit
  inputs : SorUnitInputs

def readRequired (envId : EnvId) (unit : SorUnit) (rel : String) : Deploying String := do
  match ← getEnvSecret formats envId rel with
  | some value => if value = "" then throw (.missingInput unit.unitId rel) else pure value
  | none => throw (.missingInput unit.unitId rel)

def checkAnswersTenant (unit : SorUnit) (answers : String) : Except SorError Unit :=
  if formats.answersTenant answers = some unit.tenantId then .ok ()
  else .error (.answersTenant unit.unitId)

def readOptional (envId : EnvId) (unit : SorUnit) : Option String → Deploying (Option String)
  | none => pure none
  | some rel => do
    let value ← readRequired formats envId unit rel
    pure (some value)

def resolveUnit (envId : EnvId) (unit : SorUnit) : Deploying SorUnitRender := do
  let answers ← readRequired formats envId unit unit.answersRef
  Program.lift (checkAnswersTenant formats unit answers)
  let postgresUrl ← readRequired formats envId unit unit.postgresUrlRef
  let postgresCa ← readOptional formats envId unit unit.postgresCaRef
  let sharedSecret ← readRequired formats envId unit unit.sharedSecretRef
  pure ⟨unit, answers, postgresUrl, postgresCa, sharedSecret⟩

def resolveSorInputs (envId : EnvId) : List SorUnit → Deploying (List SorUnitRender)
  | [] => pure []
  | unit :: rest => do
    let render ← resolveUnit formats envId unit
    let renders ← resolveSorInputs envId rest
    pure (render :: renders)

end Formats

/-- What a run works with: the environment, its answers where they parse, the
backend of its secrets pack, whose Namespace it is, and
`GREENTIC_DEV_SECRETS_PATH`. -/
structure Settings where
  env : Environment
  answers : Option K8sParams
  backend : SecretsBackend
  manageNamespace : Bool
  waitForRollout : Bool
  devSecretsPathOverride : Option String

def paramsFromAnswers (settings : Settings) : Except SorError K8sParams :=
  match settings.answers with
  | none => .error (.invalidArgument "answers")
  | some params => .ok { params with secretsBackend := settings.backend }

def refuseForeignLane (lane : SorLane) : List AppliedSorUnit → Except SorError Unit
  | [] => .ok ()
  | entry :: rest => do
    let recorded ← entry.lane
    if recorded ≠ lane then .error (.foreignLane entry.unitId) else refuseForeignLane lane rest

def requireDevStoreBackend : SecretsBackend → Except SorError Unit
  | .devStore => .ok ()
  | .vault => .error .vaultBackend

def refuseDevSecretsPathOverride : Option String → Except SorError Unit
  | none => .ok ()
  | some value => if value = "" then .ok () else .error .secretsPathOverride

/-- A `BTreeSet<String>`, in its order. -/
def ordered (texts : List String) : List String := texts.dedup.insertionSort (· ≤ ·)

def retiredUnits (ledger desired : List AppliedSorUnit) : List AppliedSorUnit :=
  ledger.filter fun entry => !desired.any fun d => d.samePlace entry

def retiredSors (units : List SorUnit) (ledger : List AppliedSorUnit) : List String :=
  ordered ((ledger.map AppliedSorUnit.sor).filter fun sor => !units.any fun unit => unit.sor = sor)

def undeclaredRefs (units : List SorUnit) (entry : AppliedSorUnit) : List String :=
  entry.inputRefs.filter fun rel => rel ∉ units.flatMap SorUnit.inputRefs

/-- The deletable refs and the foreign ones. -/
def staleInputRefs (units : List SorUnit) (ledger : List AppliedSorUnit) :
    List String × List String :=
  let owned := ledger.flatMap fun entry => (undeclaredRefs units entry).filter
    (isOwnedBy entry.unitId)
  let foreign := ledger.flatMap fun entry => (undeclaredRefs units entry).filter fun rel =>
    !isOwnedBy entry.unitId rel
  (ordered owned, ordered (foreign.filter (· ∉ owned)))

def pushNew (refs : List String) (rel : String) : List String :=
  if rel ∈ refs then refs else refs ++ [rel]

def AppliedSorUnit.keeping (entry d : AppliedSorUnit) : AppliedSorUnit :=
  { entry with inputRefs := d.inputRefs.foldl pushNew entry.inputRefs }

/-- The first entry of the same unit at the same place, or a new one. -/
def widenWith (d : AppliedSorUnit) : List AppliedSorUnit → List AppliedSorUnit
  | [] => [d]
  | entry :: rest =>
    if entry.sameUnit d then entry.keeping d :: rest else entry :: widenWith d rest

def widen (ledger desired : List AppliedSorUnit) : List AppliedSorUnit :=
  desired.foldl (fun intent d => widenWith d intent) ledger

structure PreparedSor where
  units : List SorUnitRender
  retiredUnits : List AppliedSorUnit
  retiredSors : List String
  staleInputRefs : List String
  skippedInputRefs : List String
  desired : List AppliedSorUnit

section Formats

variable (formats : Formats) (settings : Settings)

/-- Every refusal comes first; then the ledger is widened to every unit this run
may create. -/
def prepareUnits (units : List SorUnit) (ledger : List AppliedSorUnit) :
    Deploying PreparedSor := do
  let params ← Program.lift (paramsFromAnswers settings)
  Program.lift (refuseForeignLane .k8s ledger)
  Program.lift (if units = [] then .ok () else requireDevStoreBackend settings.backend)
  Program.lift (refuseDevSecretsPathOverride settings.devSecretsPathOverride)
  let renders ← resolveSorInputs formats settings.env.environmentId units
  let desired := units.map (applied params.namespaceName)
  attempt (.saveLedger (widen ledger desired)) id
  pure {
    units := renders
    retiredUnits := retiredUnits ledger desired
    retiredSors := retiredSors units ledger
    staleInputRefs := (staleInputRefs units ledger).1
    skippedInputRefs := (staleInputRefs units ledger).2
    desired }

def prepare : Deploying (Option PreparedSor) := do
  let units ← attempt .loadUnits id
  let ledger ← attempt .loadLedger id
  if units = [] ∧ ledger = [] then pure none
  else do
    let prepared ← prepareUnits formats settings units ledger
    pure (some prepared)

structure RouteDocument where
  sor : String
  value : String

def sorServiceUrl (unitId namespaceName : String) : String :=
  "http://" ++ sorObjectName unitId ++ "." ++ namespaceName ++ ".svc.cluster.local:8787"

def routeDocument (namespaceName : String) (render : SorUnitRender) : RouteDocument :=
  ⟨render.unit.sor, formats.routeText (sorServiceUrl render.unit.unitId namespaceName)
    render.inputs.sharedSecret render.unit.tenantId⟩

/-- An unchanged document is left alone: a put would roll every pod. -/
def publishRoute (route : RouteDocument) : Deploying PUnit := do
  let envId := settings.env.environmentId
  let current ← getEnvSecret formats envId (routeRelPath route.sor)
  if current ≠ some route.value then putEnvSecret formats envId (routeRelPath route.sor) route.value
  else pure ⟨⟩

def retire (retiredSors staleInputRefs : List String) : Deploying PUnit := do
  retiredSors.forM fun sor => deleteEnvSecret formats settings.env.environmentId (routeRelPath sor)
  staleInputRefs.forM fun rel => deleteEnvSecret formats settings.env.environmentId rel

def publish (routes : List RouteDocument) (retiredSors staleInputRefs : List String) :
    Deploying PUnit := do
  routes.forM (publishRoute formats settings)
  retire formats settings retiredSors staleInputRefs
  attempt .readSeed id

end Formats

section Reconcile

variable (formats : Formats) (settings : Settings)

def keep (manifest : Manifest) : Bool := settings.manageNamespace || !isClusterScoped manifest

/-- A Vault environment ships no values into the cluster. -/
def pruneDevSecrets (params : K8sParams) : Deploying PUnit :=
  if params.secretsBackend = .vault then delete (renderDevSecretsSecret params).ref else pure ⟨⟩

/-- `remove_unanswered`: only an Ingress the deployer made, and its failure is none. -/
def removeUnanswered (params : K8sParams) : Deploying PUnit :=
  if params.ingressHost = none then
    Program.ask (.deleteIfLabeled (renderIngress params).ref ingressComponent) fun _ => .ok ⟨⟩
  else pure ⟨⟩

/-- The stale dev-store Secret, the workers of absent revisions, and the Ingress
nobody answers for. -/
def pruneAbsent (params : K8sParams) : Deploying PUnit := do
  pruneDevSecrets params
  (settings.env.revisions.filter fun revision => !hasClusterPresence revision.lifecycle).forM
    fun revision => (renderWorkerManifests params revision).forM fun manifest => delete manifest.ref
  removeUnanswered params

def reconcile : Deploying PUnit := do
  let params ← Program.lift (paramsFromAnswers settings)
  ((renderEnvironment params settings.env).filter (keep settings)).forM apply
  pruneAbsent settings params

/-- The units' rollouts: a unit that does not come up fails the reconcile. -/
def awaitUnits (params : K8sParams) (renders : List SorUnitRender) : Deploying PUnit :=
  renders.forM fun render => attempt (.waitForRollout
    ⟨"apps/v1", "Deployment", some params.namespaceName, sorObjectName render.unit.unitId⟩) id

def sorObjects (params : K8sParams) (renders : List SorUnitRender) : List Manifest :=
  (if renders.isEmpty then [] else renderSorNetworkPolicies params) ++
    renders.flatMap fun render => renderSorManifests params render.unit

/-- The store entries: on a Vault environment only the deletes run. -/
def refreshStore (params : K8sParams) (sor : PreparedSor) : Deploying PUnit :=
  match params.secretsBackend with
  | .vault => retire formats settings sor.retiredSors sor.staleInputRefs
  | .devStore => publish formats settings
      (sor.units.map (routeDocument formats params.namespaceName)) sor.retiredSors sor.staleInputRefs

def pruneRetired (params : K8sParams) (sor : PreparedSor) : Deploying PUnit := do
  sor.retiredUnits.forM fun retired =>
    (sorObjectRefs retired.unitId retired.namespaceName).forM delete
  if sor.units.isEmpty && !sor.retiredUnits.isEmpty then
    (sorPolicyRefs params.namespaceName).forM delete
  else pure ⟨⟩

def reconcileWithSor (sor : PreparedSor) : Deploying PUnit := do
  Program.lift (if sor.units.isEmpty then .ok () else requireDevStoreBackend settings.backend)
  let params ← Program.lift (paramsFromAnswers settings)
  ((renderEnvironmentManifests params settings.env).filter fun manifest =>
    keep settings manifest && !isDeployment manifest).forM apply
  (sorObjects params sor.units).forM apply
  awaitUnits params sor.units
  refreshStore formats settings params sor
  ((renderEnvironment params settings.env).filter (keep settings)).forM apply
  pruneAbsent settings params
  pruneRetired params sor

def awaitWorkers : Deploying PUnit := do
  let params ← Program.lift (paramsFromAnswers settings)
  if settings.waitForRollout then
    ((renderEnvironment params settings.env).filter fun manifest =>
      isDeployment manifest && keep settings manifest).forM fun manifest =>
        attempt (.waitForRollout manifest.ref) id
  else pure ⟨⟩

def reconcileAndWait : Option PreparedSor → Deploying PUnit
  | some sor => do
    reconcileWithSor formats settings sor
    awaitWorkers settings
  | none => do
    reconcile settings
    awaitWorkers settings

def recordApplied (prepared : PreparedSor) : Deploying PUnit :=
  attempt (.saveLedger prepared.desired) id

/-- `op env reconcile`, from the seed on. -/
def deploy : Deploying PUnit := do
  attempt .readSeed id
  let prepared ← prepare formats settings
  reconcileAndWait formats settings prepared
  match prepared with
  | some prepared => recordApplied prepared
  | none => pure ⟨⟩

end Reconcile

end GreenticDeployer.Sor
