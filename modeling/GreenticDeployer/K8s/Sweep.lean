import GreenticDeployer.Engine.Verbs
import GreenticDeployer.Lib.Programs
import GreenticDeployer.Local.PolicyFiles
import GreenticDeployer.Sor.Cluster

/-!
# The sweep of orphaned workers

`op env sweep` lists the worker objects of an environment, finds those of no
stored revision by their labels, and deletes them under the environment lock.
The other operators' verbs and cluster calls take effect in between, and so do
the hands of anyone else with access to the cluster.
-/

set_option maxHeartbeats 200000

namespace GreenticDeployer.K8s

open Spec Engine Lib
open Local (Turn)
open Sor (ObjectRef K8sParams)

abbrev Labels := List (String × String)

def label (labels : Labels) (key : String) : Option String := labels.lookup key

def managedBy : String × String := ("app.kubernetes.io/managed-by", "greentic")

def component : String × String := ("app.kubernetes.io/component", "worker")

def revisionLabel : String := "greentic.ai/revision"

def envLabel : String := "greentic.ai/env"

def storeLabel : String := "greentic.ai/store"

/-- The label selector the sweep lists with. -/
def workerSelector (env : Environment) : String :=
  managedBy.1 ++ "=" ++ managedBy.2 ++ "," ++ component.1 ++ "=" ++ component.2 ++ "," ++
    envLabel ++ "=" ++ env.environmentId.asStr

/-- What the live object must carry to be deleted. -/
def ownership (env : Environment) (store rawRevision : String) : Labels :=
  [managedBy, component, (envLabel, env.environmentId.asStr), (storeLabel, store),
    (revisionLabel, rawRevision)]

def Carries (labels wanted : Labels) : Prop :=
  ∀ entry ∈ wanted, label labels entry.1 = some entry.2

instance (labels wanted : Labels) : Decidable (Carries labels wanted) :=
  inferInstanceAs (Decidable (∀ entry ∈ wanted, _))

def workerLabels (env : Environment) (revision : Revision) (store : Option String) : Labels :=
  [managedBy, component, (envLabel, env.environmentId.asStr),
    (revisionLabel, revision.revisionId.toString),
    ("greentic.ai/deployment", String.ofList revision.deploymentId.ulid.toChars),
    ("greentic.ai/bundle", revision.bundleId.asStr)] ++
    store.toList.map fun value => (storeLabel, value)

structure LabeledObject where
  object : ObjectRef
  labels : Labels
  deriving DecidableEq

/-- An object a sweep deleted: its labels and the stored environment at that moment. -/
structure Deletion where
  object : ObjectRef
  labels : Labels
  env : Environment

/-- The stored environment and the objects of the cluster, with what sweeps deleted. -/
structure Fleet where
  env : Environment
  objects : ObjectRef → Option Labels
  swept : List Deletion

def Fleet.start (env : Environment) (objects : ObjectRef → Option Labels) : Fleet :=
  ⟨env, objects, []⟩

structure K8sOperation where
  group : String
  resource : String
  verb : String
  deriving DecidableEq, Repr

def K8sOperation.capabilityId (operation : K8sOperation) : String :=
  "k8s.rbac.allow:" ++ (if operation.group = "" then "core" else operation.group) ++ "/" ++
    operation.resource ++ ":" ++ operation.verb

def sweepK8sOperations : List K8sOperation :=
  [⟨"apps", "deployments", "get"⟩, ⟨"apps", "deployments", "list"⟩, ⟨"", "services", "get"⟩,
    ⟨"", "services", "list"⟩]

structure OperationDecision where
  operation : K8sOperation
  allowed : Bool
  deriving DecidableEq, Repr

inductive SweepCall
  | lock
  | unlock
  | load
  | loadRenderAnswers
  | reviewAccess (operations : List K8sOperation)
  | list (namespaceName selector : String)
  | deleteIfLabeled (object : ObjectRef) (labels : Labels)
  | apply (object : ObjectRef) (labels : Labels)
  | delete (object : ObjectRef)
  | confirmDrained (revisionId : RevisionId)
  | rolledOut (deployment : ObjectRef)
  | runVerb (verb : Verb)

@[reducible] def SweepCall.Reply : SweepCall → Type
  | lock | apply _ _ | delete _ | confirmDrained _ | runVerb _ => Option Unit
  | unlock => Unit
  | load => Option Environment
  | loadRenderAnswers => Option (Option K8sParams)
  | reviewAccess _ => Option (List OperationDecision)
  | list _ _ => Option (List LabeledObject)
  | deleteIfLabeled _ _ | rolledOut _ => Option Bool

/-- What others do to the cluster before a call, how the call goes, and what the
cluster answers. `lost` is a delete that finds the object unreadable or replaced. -/
structure Hands where
  changes : List (ObjectRef × Option Labels)
  turn : Turn
  answers : Option K8sParams
  decisions : List OperationDecision
  listed : List LabeledObject
  rolledOut : Bool
  lost : Bool

def Fleet.changed (fleet : Fleet) (changes : List (ObjectRef × Option Labels)) : Fleet :=
  { fleet with objects := changes.foldl (fun objects change =>
      Function.update objects change.1 change.2) fleet.objects }

def Fleet.takes (fleet : Fleet) (object : ObjectRef) (labels : Labels) : Prop :=
  ∀ live ∈ fleet.objects object, label live envLabel = none ∨ label labels envLabel = none ∨
    label live envLabel = label labels envLabel

instance (fleet : Fleet) (object : ObjectRef) (labels : Labels) :
    Decidable (fleet.takes object labels) :=
  inferInstanceAs (Decidable (∀ live ∈ fleet.objects object, _))

def Fleet.applied (fleet : Fleet) (object : ObjectRef) (labels : Labels) : Fleet :=
  { fleet with
    objects := Function.update fleet.objects object
      (some (labels ++ (fleet.objects object).getD [])) }

def Fleet.deleted (fleet : Fleet) (object : ObjectRef) : Fleet :=
  { fleet with objects := Function.update fleet.objects object none }

def Fleet.sweeps (fleet : Fleet) (object : ObjectRef) (live : Labels) : Fleet :=
  { fleet.deleted object with swept := fleet.swept ++ [⟨object, live, fleet.env⟩] }

def Fleet.saved (fleet : Fleet) (after : Environment) : Fleet := { fleet with env := after }

def Fleet.wrote (fleet : Fleet) (turn : Turn) (after : Fleet) : Option Unit × Fleet :=
  (turn.reply, if turn.effective then after else fleet)

def Fleet.deleteIfLabeled (fleet : Fleet) (hands : Hands) (object : ObjectRef) (labels : Labels) :
    Option Bool × Fleet :=
  match fleet.objects object with
  | none => (hands.turn.reply.map fun _ => false, fleet)
  | some live =>
    if Carries live labels ∧ hands.lost = false then
      (hands.turn.reply.map fun _ => true,
        if hands.turn.effective then fleet.sweeps object live else fleet)
    else (hands.turn.reply.map fun _ => false, fleet)

section Calls

variable (serde : SerdeJson) (ext : Externals)

/-- One call, on the cluster as the others left it. `runVerb` loads, applies and saves
under the environment lock. -/
def Fleet.call (hands : Hands) (fleet : Fleet) : (call : SweepCall) → call.Reply × Fleet
  | .lock => (hands.turn.reply, fleet)
  | .unlock => ((), fleet)
  | .load => (hands.turn.reply.map fun _ => fleet.env, fleet)
  | .loadRenderAnswers => (hands.turn.reply.map fun _ => hands.answers, fleet)
  | .reviewAccess _ => (hands.turn.reply.map fun _ => hands.decisions, fleet)
  | .list _ _ => (hands.turn.reply.map fun _ => hands.listed, fleet)
  | .deleteIfLabeled object labels => fleet.deleteIfLabeled hands object labels
  | .apply object labels =>
    if fleet.takes object labels then fleet.wrote hands.turn (fleet.applied object labels)
    else (none, fleet)
  | .delete object => fleet.wrote hands.turn (fleet.deleted object)
  | .confirmDrained _ => (hands.turn.reply, fleet)
  | .rolledOut _ => (hands.turn.reply.map fun _ => hands.rolledOut, fleet)
  | .runVerb verb =>
    fleet.wrote hands.turn (fleet.saved (persist serde ext fleet.env verb))

def Fleet.exec (hands : Hands) (fleet : Fleet) (call : SweepCall) : call.Reply × Fleet :=
  (fleet.changed hands.changes).call serde ext hands call

end Calls

inductive SweepError
  | store
  | notSweepable
  | invalidAnswers
  | reviewFailed
  | reviewMismatch (expected got : Nat)
  | missingPermission (envId : EnvId) (namespaceName : String) (permissions : List String)
  | noStoreLabel
  | provider
  | revisionNotFound (envId : EnvId) (revisionId : RevisionId)
  | notReady (deployment : ObjectRef)
  deriving DecidableEq

abbrev Sweeping (α : Type) := Program.Fallible SweepCall SweepCall.Reply SweepError α

def orFail {α : Type} (e : SweepError) : Option α → Except SweepError α
  | some value => .ok value
  | none => .error e

structure SweptObject where
  kind : String
  name : String
  revisionId : String
  deriving DecidableEq, Repr

structure SkippedObject where
  kind : String
  name : String
  reason : String
  deriving DecidableEq, Repr

structure SweepReport where
  namespaceName : String
  labelSelector : String
  storeLabel : String
  dryRun : Bool
  orphans : List SweptObject
  removed : List SweptObject
  kept : List SweptObject
  unattributed : List SweptObject
  skipped : List SkippedObject
  deriving DecidableEq, Repr

def SweepReport.skip (report : SweepReport) (item : LabeledObject) (reason : String) :
    SweepReport :=
  { report with skipped := report.skipped ++ [⟨item.object.kind, item.object.name, reason⟩] }

/-- What the labels of a listed object say of it. -/
inductive Finding
  | skipped (reason : String)
  | kept (swept : SweptObject)
  | unattributed (swept : SweptObject)
  | orphan (swept : SweptObject) (rawRevision : String)

section Sweep

variable (parseUlid : String → Option Ulid)

def carriesWorkerLabels (env : Environment) (labels : Labels) : Prop :=
  label labels managedBy.1 = some managedBy.2 ∧ label labels component.1 = some component.2 ∧
    label labels envLabel = some env.environmentId.asStr

instance (env : Environment) (labels : Labels) : Decidable (carriesWorkerLabels env labels) :=
  inferInstanceAs (Decidable (_ ∧ _ ∧ _))

def attributeOrphan (store : String) (item : LabeledObject) (swept : SweptObject) (rawRevision : String) :
    Finding :=
  match label item.labels storeLabel with
  | none => .unattributed swept
  | some other =>
    if other ≠ store then
      .skipped ("owned by another store (`" ++ storeLabel ++ "=" ++ other ++ "`)")
    else .orphan swept rawRevision

def classifyRevision (env : Environment) (store : String) (item : LabeledObject)
    (rawRevision : String) : Finding :=
  match parseUlid rawRevision with
  | none => .skipped ("unparseable `greentic.ai/revision` label `" ++ rawRevision ++ "`")
  | some ulid =>
    let swept : SweptObject :=
      ⟨item.object.kind, item.object.name, (RevisionId.mk ulid).toString⟩
    if ⟨ulid⟩ ∈ env.revisions.map (·.revisionId) then .kept swept
    else attributeOrphan store item swept rawRevision

def classify (env : Environment) (store : String) (item : LabeledObject) : Finding :=
  if ¬ carriesWorkerLabels env item.labels then
    .skipped "does not carry this env's worker labels"
  else if item.object.kind ≠ "Deployment" ∧ item.object.kind ≠ "Service" then
    .skipped "not a worker Deployment/Service"
  else match label item.labels revisionLabel with
    | none => .skipped "no `greentic.ai/revision` label"
    | some rawRevision => classifyRevision parseUlid env store item rawRevision

/-- An orphan is deleted if it still carries every ownership label. -/
def removeOrphan (env : Environment) (store : String) (item : LabeledObject) (swept : SweptObject)
    (rawRevision : String) (report : SweepReport) : Sweeping SweepReport := do
  let deleted ← Program.ask (.deleteIfLabeled item.object (ownership env store rawRevision))
    (orFail .provider)
  if deleted then
    return { report with
      removed := report.removed ++ [swept], orphans := report.orphans ++ [swept] }
  else
    return report.skip item
      "ownership labels changed or object gone before the delete; left alone"

def sweepItem (env : Environment) (store : String) (apply : Bool) (item : LabeledObject)
    (report : SweepReport) : Sweeping SweepReport :=
  match classify parseUlid env store item with
  | .skipped reason => return report.skip item reason
  | .kept swept => return { report with kept := report.kept ++ [swept] }
  | .unattributed swept => return { report with unattributed := report.unattributed ++ [swept] }
  | .orphan swept rawRevision =>
    if apply then removeOrphan env store item swept rawRevision report
    else return { report with orphans := report.orphans ++ [swept] }

def sweepListed (env : Environment) (store : String) (apply : Bool) :
    List LabeledObject → SweepReport → Sweeping SweepReport
  | [], report => return report
  | item :: rest, report => do
    let next ← sweepItem parseUlid env store apply item report
    sweepListed env store apply rest next

def SweepReport.fresh (params : K8sParams) (env : Environment) (store : String) (apply : Bool) :
    SweepReport :=
  ⟨params.namespaceName, workerSelector env, store, !apply, [], [], [], [], []⟩

/-- Each operation reviewed is allowed, in the order asked. -/
def checkDecisions (env : Environment) (params : K8sParams) (decisions : List OperationDecision) :
    Except SweepError Unit :=
  if decisions.length ≠ sweepK8sOperations.length then
    .error (.reviewMismatch sweepK8sOperations.length decisions.length)
  else
    match (sweepK8sOperations.zip decisions).filter fun (operation, decision) =>
        decision.operation ≠ operation ∨ decision.allowed = false with
    | [] => .ok ()
    | missing => .error (.missingPermission env.environmentId params.namespaceName
        (missing.map fun (operation, _) => operation.capabilityId))

/-- What the operations are told from outside: this store's label, and whether the
environment's deployer is a Kubernetes one that can remove. -/
structure Operator where
  store : Option String
  sweepable : Environment → Bool

variable (operator : Operator)

def renderAnswers : Sweeping K8sParams := do
  let answers ← Program.ask .loadRenderAnswers (orFail .store)
  Program.lift (orFail .invalidAnswers answers)

/-- `sweep_k8s`: the permissions first, then the listing. -/
def sweepK8s (env : Environment) (params : K8sParams) (apply : Bool) : Sweeping SweepReport := do
  let decisions ← Program.ask (.reviewAccess sweepK8sOperations) (orFail .reviewFailed)
  Program.lift (checkDecisions env params decisions)
  let store ← Program.lift (orFail .noStoreLabel operator.store)
  let listed ← Program.ask (.list params.namespaceName (workerSelector env)) (orFail .provider)
  sweepListed parseUlid env store apply listed (.fresh params env store apply)

/-- Under the environment lock, which is let go however the body ends. -/
def transact {α : Type} (body : Sweeping α) : Sweeping α := do
  Program.ask .lock (orFail .store)
  ExceptT.mk (body.run >>= fun outcome => .call .unlock fun _ => .done outcome)

/-- The environment is loaded again under the lock. -/
def sweepLocked : Sweeping SweepReport := do
  let env ← Program.ask .load (orFail .store)
  let params ← renderAnswers
  sweepK8s parseUlid operator env params true

def sweepUnlocked (env : Environment) : Sweeping SweepReport := do
  let params ← renderAnswers
  sweepK8s parseUlid operator env params false

/-- `op env sweep`. -/
def sweepWith (apply : Bool) : Sweeping SweepReport := do
  let env ← Program.ask .load (orFail .store)
  Program.lift (if operator.sweepable env then .ok () else .error .notSweepable)
  if apply then transact (sweepLocked parseUlid operator) else sweepUnlocked parseUlid operator env

def findRevision (env : Environment) (revisionId : RevisionId) : Except SweepError Revision :=
  match env.revisions.find? fun revision => revision.revisionId = revisionId with
  | some revision => .ok revision
  | none => .error (.revisionNotFound env.environmentId revisionId)

def workerPair (params : K8sParams) (revision : Revision) : List ObjectRef :=
  (Sor.renderWorkerManifests params revision).map fun manifest => manifest.ref

/-- Poll once, and again as often as the timeout leaves time for. -/
def waitForRollout (deployment : ObjectRef) : Nat → Sweeping Unit
  | 0 => do
    let complete ← Program.ask (.rolledOut deployment) (orFail .provider)
    if complete then return () else throw (.notReady deployment)
  | polls + 1 => do
    let complete ← Program.ask (.rolledOut deployment) (orFail .provider)
    if complete then return () else waitForRollout deployment polls

def warmRevision (revisionId : RevisionId) (polls : Nat) : Sweeping Unit := do
  let env ← Program.ask .load (orFail .store)
  let revision ← Program.lift (findRevision env revisionId)
  let params ← renderAnswers
  (workerPair params revision).forM fun object =>
    Program.ask (.apply object (workerLabels env revision operator.store)) (orFail .provider)
  (workerPair params revision).head?.toList.forM fun deployment =>
    waitForRollout deployment polls

/-- `confirm_drained`, unless the archive is forced. -/
def archiveDrainGate (revisionId : RevisionId) (force : Bool) : Sweeping Unit :=
  if force then return () else Program.ask (.confirmDrained revisionId) (orFail .provider)

def archiveRevision (revisionId : RevisionId) (force : Bool) : Sweeping Unit := do
  let env ← Program.ask .load (orFail .store)
  let revision ← Program.lift (findRevision env revisionId)
  let params ← renderAnswers
  archiveDrainGate revisionId force
  (workerPair params revision).forM fun object => Program.ask (.delete object) (orFail .provider)

/-- What operators of one store may start. Staging and removing are verbs alone;
warming and archiving are a verb and a step on the cluster each. -/
inductive FleetOperation
  | sweep (apply : Bool)
  | warm (revisionId : RevisionId) (polls : Nat)
  | archive (revisionId : RevisionId) (force : Bool)
  | verb (verb : Verb)

def FleetOperation.body : FleetOperation → Sweeping (Option SweepReport)
  | .sweep apply => do
    let report ← sweepWith parseUlid operator apply
    return some report
  | .warm revisionId polls => do
    warmRevision operator revisionId polls
    return none
  | .archive revisionId force => do
    archiveRevision revisionId force
    return none
  | .verb engineVerb => do
    Program.ask (.runVerb engineVerb) (orFail .store)
    return none

end Sweep

end GreenticDeployer.K8s
