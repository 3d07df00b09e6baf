import GreenticDeployer.Engine.Retirement
import GreenticDeployer.Lib.Crash

/-!
# Retiring with provider hooks

The store's steps of a retire and the calls of the environment's deployer, as
one program: stamp, drain, then per revision tear down and archive, then remove.
A hook may be done, unavailable or fail, each time it is called.
-/

set_option maxHeartbeats 200000

namespace GreenticDeployer.Retire

open Spec Engine Lib

inductive HookResult where
  | done
  | unavailable (why : String)
  deriving DecidableEq

/-- How a retire fails. A drain thread that panicked is an error like another. -/
inductive OpError where
  | capabilityMissing (text : String)
  | notFound (text : String)
  | conflict (text : String)
  | store
  deriving DecidableEq

/-- What the provider does when a hook is called. -/
structure Hooks where
  preflight : Environment → Except OpError Unit
  drain : RevisionId → Except OpError HookResult
  teardown : RevisionId → Except OpError HookResult

/-- The stored environment, and what the provider has confirmed in this run: the
revisions whose hooks returned without an error. -/
structure World where
  env : Environment
  drained : List RevisionId
  torn : List RevisionId

inductive RetireCall where
  | load
  | preflight (env : Environment)
  | verb (verb : Verb)
  /-- Drain hooks run at the same time, all of them joined. -/
  | drainBatch (batch : List RevisionId)
  | teardown (revisionId : RevisionId)

@[reducible] def RetireCall.Reply : RetireCall → Type
  | load => Environment
  | preflight _ => Except OpError Unit
  | verb _ => Bool
  | drainBatch _ => List (Except OpError HookResult)
  | teardown _ => Except OpError HookResult

def confirmed (hook : RevisionId → Except OpError HookResult) (revisions : List RevisionId) :
    List RevisionId :=
  revisions.filter fun r => (hook r).isOk

section Exec

variable (serde : SerdeJson) (ext : Externals)

def exec (hooks : Hooks) (world : World) : (call : RetireCall) → call.Reply × World
  | .load => (world.env, world)
  | .preflight env => (hooks.preflight env, world)
  | .verb verb => (verb.applies world.env, { world with env := persist serde ext world.env verb })
  | .drainBatch batch =>
    (batch.map hooks.drain, { world with drained := world.drained ++ confirmed hooks.drain batch })
  | .teardown r =>
    (hooks.teardown r, { world with torn := world.torn ++ confirmed hooks.teardown [r] })

end Exec

abbrev RetireRun (α : Type) := Program.Fallible RetireCall RetireCall.Reply OpError α

def load : RetireRun Environment := Program.ask .load .ok

def verb (verb : Verb) : RetireRun Unit :=
  Program.ask (.verb verb) fun applied => if applied then .ok () else .error .store

def drainConcurrency : Nat := 4

def drainConcurrently (revisions : List RevisionId) :
    RetireRun (List (Except OpError HookResult)) :=
  go (revisions.toChunks drainConcurrency)
where
  go : List (List RevisionId) → RetireRun (List (Except OpError HookResult))
    | [] => pure []
    | batch :: rest => do
      let joined ← Program.ask (.drainBatch batch) .ok
      let out ← go rest
      pure (joined ++ out)

/-- One row of a report for each revision, up to the first error. -/
def runHook (call : RevisionId → RetireRun HookResult) :
    List RevisionId → RetireRun (List (RevisionId × HookResult))
  | [] => pure []
  | r :: rest => do
    let result ← call r
    let rows ← runHook call rest
    pure ((r, result) :: rows)

def drainRows : List RevisionId → List (Except OpError HookResult) →
    Except OpError (List (RevisionId × HookResult))
  | [], _ => .ok []
  | _ :: _, [] => .error (.conflict "drain produced no result")
  | r :: rest, drained :: others => do
    let result ← drained
    let rows ← drainRows rest others
    .ok ((r, result) :: rows)

def OpError.text : OpError → String
  | capabilityMissing text => text
  | notFound text => text
  | conflict text => text
  | store => "store"

def teardownFailed (r : RevisionId) (e : OpError) : OpError :=
  .conflict ("teardown of revision `" ++ r.toString ++
    "` failed; it stays un-archived and the next retire retries it: " ++ e.text)

/-- The provider first, the store second: a revision is archived only once its
workload is gone. -/
def teardownThenArchive (steps : RetireSteps) (r : RevisionId) : RetireRun HookResult := do
  let result ← Program.ask (.teardown r) fun reply => reply.mapError (teardownFailed r)
  if r ∈ steps.archive then verb (.archiveRevision r)
  pure result

structure RetireReport where
  deploymentId : DeploymentId
  drained : List RevisionId
  drainHook : List (RevisionId × HookResult)
  archived : List RevisionId
  teardown : List (RevisionId × HookResult)

def planSteps (env : Environment) (id : DeploymentId) : Except OpError RetireSteps :=
  (retireSteps env id).mapError fun _ => .notFound "deployment"

/-- The plan carried out: stamps, drain hooks, teardowns, the removal. -/
def carryOut (id : DeploymentId) (steps : RetireSteps) : RetireRun RetireReport := do
  steps.drainStamp.forM fun r => verb (.drainRevision r)
  let drained ← drainConcurrently steps.drainHook
  let drainHooks ← Program.lift (drainRows steps.drainHook drained)
  let teardown ← runHook (teardownThenArchive steps) steps.teardown
  verb (.removeBundle id)
  pure {
    deploymentId := id
    drained := steps.drainStamp
    drainHook := drainHooks
    archived := steps.archive
    teardown := teardown }

def runSequence (id : DeploymentId) : RetireRun RetireReport := do
  let env ← load
  Program.ask (.preflight env) fun reply => reply
  verb (.beginRetire id)
  let begun ← load
  let steps ← Program.lift (planSteps begun id)
  carryOut id steps

def World.start (env : Environment) : World := ⟨env, [], []⟩

def retireRuns (serde : SerdeJson) (ext : Externals) (id : DeploymentId) :
    System Environment (List Hooks) where
  step := fun env schedule => ((runSequence id).run.cut (exec serde ext) (.start env) schedule).env
  allowed := fun _ _ => True

end GreenticDeployer.Retire
