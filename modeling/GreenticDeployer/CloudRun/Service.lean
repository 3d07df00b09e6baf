import GreenticDeployer.Lib.Runs
import GreenticDeployer.Lib.Results
import GreenticDeployer.Spec.Documents
import Mathlib.Logic.Function.Basic
import Mathlib.Algebra.BigOperators.Ring.List

/-!
# Warms and traffic splits on one Service

A Cloud Run Service is one document: its template and its traffic list. A warm
and an `apply_traffic_split` each read it, compute a whole new traffic list and
write it back under the etag they read. The clients interleave at the
granularity of provider calls.
-/

set_option maxHeartbeats 200000

namespace GreenticDeployer.CloudRun

open Spec Lib

structure TrafficTarget where
  revisionId : RevisionId
  percent : Nat
  deriving DecidableEq

structure ServiceStatus where
  traffic : List TrafficTarget
  etag : Nat
  deriving DecidableEq

/-- What the provider keeps of a revision: the intent it was stamped with and
its immutable template. -/
structure RevisionRecord (T : Type) where
  intent : String
  template : T

/-- The provider's side of one deployment; `etagCounter` is the last etag given
out. -/
structure Provider (T : Type) where
  service : Option ServiceStatus
  revisions : RevisionId → Option (RevisionRecord T)
  etagCounter : Nat

structure ServiceSpec (T : Type) where
  revisionId : RevisionId
  traffic : List TrafficTarget
  intent : String
  template : T

inductive CloudRunTargetError
  | preconditionFailed
  | notFound
  deriving DecidableEq

namespace Provider

variable {T : Type} [DecidableEq T]

/-- The etag rule of an upsert: an update must send the live etag, a create must
find nothing. -/
def etagAccepted (live : Option ServiceStatus) (etag : Option Nat) : Bool :=
  match live, etag with
  | some status, some sent => status.etag = sent
  | some _, none => false
  | none, _ => true

def upsertService (provider : Provider T) (spec : ServiceSpec T) (etag : Option Nat) :
    Except CloudRunTargetError (Provider T) :=
  if etagAccepted provider.service etag = false then .error .preconditionFailed
  -- A revision is immutable: its name is taken for any other template.
  else if (provider.revisions spec.revisionId).any fun live => live.template ≠ spec.template then
    .error .preconditionFailed
  else
    .ok {
      service := some ⟨spec.traffic, provider.etagCounter + 1⟩
      revisions := Function.update provider.revisions spec.revisionId
        (some ⟨spec.intent, spec.template⟩)
      etagCounter := provider.etagCounter + 1 }

def setTraffic (provider : Provider T) (traffic : List TrafficTarget) (etag : Nat) :
    Except CloudRunTargetError (Provider T) :=
  match provider.service with
  | none => .error .notFound
  | some live =>
    if live.etag ≠ etag then .error .preconditionFailed
    else
      .ok { provider with
        service := some ⟨traffic, provider.etagCounter + 1⟩
        etagCounter := provider.etagCounter + 1 }

end Provider

inductive DeployerError
  | splitNotFound (envId : EnvId) (deploymentId : DeploymentId)
  | invalidSplit (deploymentId : DeploymentId) (sum : Nat)
  | unrepresentableWeight (revisionId : RevisionId) (weightBps : UInt32)
  deriving DecidableEq

def enforceSplitInvariants (env : Environment) (deploymentId : DeploymentId) :
    Except DeployerError (List TrafficSplitEntry) :=
  match env.trafficSplits.find? fun split => split.deploymentId = deploymentId with
  | none => .error (.splitNotFound env.environmentId deploymentId)
  | some split =>
    let sum := (split.entries.map fun entry => entry.weightBps.toNat).sum
    if sum ≠ 10000 then .error (.invalidSplit deploymentId sum) else .ok split.entries

def splitToTrafficTargets : List TrafficSplitEntry → Except DeployerError (List TrafficTarget)
  | [] => .ok []
  | entry :: rest =>
    if entry.weightBps.toNat % 100 ≠ 0 then
      .error (.unrepresentableWeight entry.revisionId entry.weightBps)
    else do
      let targets ← splitToTrafficTargets rest
      .ok (⟨entry.revisionId, entry.weightBps.toNat / 100⟩ :: targets)

/-- An `apply_traffic_split` past its checks: the entries of the environment's
split and the targets they became. -/
structure SplitPlan where
  env : Environment
  deploymentId : DeploymentId
  entries : List TrafficSplitEntry
  targets : List TrafficTarget
  recorded : enforceSplitInvariants env deploymentId = .ok entries
  converted : splitToTrafficTargets entries = .ok targets

/-- Both checks run before any provider call. -/
def planSplit (env : Environment) (deploymentId : DeploymentId) : Except DeployerError SplitPlan :=
  match recorded : enforceSplitInvariants env deploymentId with
  | .error e => .error e
  | .ok entries =>
    match converted : splitToTrafficTargets entries with
    | .error e => .error e
    | .ok targets => .ok ⟨env, deploymentId, entries, targets, recorded, converted⟩

structure WarmPlan (T : Type) where
  revisionId : RevisionId
  intent : String
  template : T

inductive LiveRevision
  | absent
  | sameIntent
  | conflict
  deriving DecidableEq

def liveRevision {T : Type} (provider : Provider T) (plan : WarmPlan T) : LiveRevision :=
  match provider.revisions plan.revisionId with
  | none => .absent
  | some live => if live.intent = plan.intent then .sameIntent else .conflict

/-- The traffic a warm writes back: everything to itself when it creates the
Service, else what it read with itself added at 0 % if it is new. -/
def warmTraffic (revisionId : RevisionId) : Option ServiceStatus → List TrafficTarget
  | none => [⟨revisionId, 100⟩]
  | some status =>
    if status.traffic.any fun target => target.revisionId = revisionId then status.traffic
    else status.traffic ++ [⟨revisionId, 0⟩]

def warmSpec {T : Type} (plan : WarmPlan T) (existing : Option ServiceStatus) : ServiceSpec T :=
  ⟨plan.revisionId, warmTraffic plan.revisionId existing, plan.intent, plan.template⟩

def maxEtagRetries : Nat := 5

/-- Where a client stands between two provider calls. -/
inductive ServicePhase (T : Type)
  | idle
  | probing (plan : WarmPlan T)
  | reading (plan : WarmPlan T) (attempt : Nat)
  | upserting (plan : WarmPlan T) (attempt : Nat) (existing : Option ServiceStatus)
  | reclassifying (plan : WarmPlan T) (attempt : Nat)
  | readingForSplit (split : SplitPlan) (attempt : Nat)
  | settingTraffic (split : SplitPlan) (attempt : Nat) (status : ServiceStatus)

/-- The Service document a client is about to write back. -/
def ServicePhase.read {T : Type} : ServicePhase T → Option ServiceStatus
  | upserting _ _ existing => existing
  | settingTraffic _ _ status => some status
  | idle | probing _ | reading _ _ | reclassifying _ _ | readingForSplit _ _ => none

structure ServiceState (P T : Type) where
  provider : Provider T
  phase : P → ServicePhase T

/-- `fail` is any provider error other than a failed precondition, and the end
of the process: the call returns. -/
inductive ServiceAction (P T : Type)
  | startWarm (client : P) (plan : WarmPlan T)
  | startSplit (client : P) (env : Environment) (deploymentId : DeploymentId)
  | advance (client : P)
  | fail (client : P)

def ServiceAction.client {P T : Type} : ServiceAction P T → P
  | startWarm client _ | startSplit client _ _ | advance client | fail client => client

namespace ServiceState

variable {P T : Type} [DecidableEq P] [DecidableEq T]

def moveTo (state : ServiceState P T) (client : P) (next : ServicePhase T) : ServiceState P T :=
  { state with phase := Function.update state.phase client next }

def startWarm (state : ServiceState P T) (client : P) (plan : WarmPlan T) : ServiceState P T :=
  match state.phase client with
  | .idle => state.moveTo client (.probing plan)
  | _ => state

def startSplit (state : ServiceState P T) (client : P) (env : Environment)
    (deploymentId : DeploymentId) : ServiceState P T :=
  match state.phase client with
  | .idle =>
    match planSplit env deploymentId with
    | .ok split => state.moveTo client (.readingForSplit split 0)
    | .error _ => state
  | _ => state

/-- The result of an upsert, and of `set_traffic`: an accepted write ends the
client's part in the traffic, a failed precondition goes to `retry`. -/
def settle (state : ServiceState P T) (client : P) (retry : ServicePhase T) :
    Except CloudRunTargetError (Provider T) → ServiceState P T
  | .ok provider => { state with provider }.moveTo client .idle
  | .error .preconditionFailed => state.moveTo client retry
  | .error .notFound => state.moveTo client .idle

/-- The next provider call of a client and what it makes of the answer. -/
def advance (state : ServiceState P T) (client : P) : ServiceState P T :=
  match state.phase client with
  | .idle => state
  | .probing plan =>
    match liveRevision state.provider plan with
    | .absent => state.moveTo client (.reading plan 0)
    | .sameIntent | .conflict => state.moveTo client .idle
  | .reading plan attempt =>
    state.moveTo client (.upserting plan attempt state.provider.service)
  | .upserting plan attempt existing =>
    state.settle client (.reclassifying plan attempt)
      (state.provider.upsertService (warmSpec plan existing) (existing.map ServiceStatus.etag))
  | .reclassifying plan attempt =>
    match liveRevision state.provider plan with
    | .absent =>
      if attempt + 1 > maxEtagRetries then state.moveTo client .idle
      else state.moveTo client (.reading plan (attempt + 1))
    | .sameIntent | .conflict => state.moveTo client .idle
  | .readingForSplit split attempt =>
    match state.provider.service with
    | none => state.moveTo client .idle
    | some status => state.moveTo client (.settingTraffic split attempt status)
  | .settingTraffic split attempt status =>
    state.settle client
      (if attempt + 1 > maxEtagRetries then .idle else .readingForSplit split (attempt + 1))
      (state.provider.setTraffic split.targets status.etag)

def step (state : ServiceState P T) : ServiceAction P T → ServiceState P T
  | .startWarm client plan => state.startWarm client plan
  | .startSplit client env deploymentId => state.startSplit client env deploymentId
  | .advance client => state.advance client
  | .fail client => state.moveTo client .idle

end ServiceState

/-- Any number of warms and traffic splits, in any order of their calls. -/
def serviceClients (P T : Type) [DecidableEq P] [DecidableEq T] :
    Lib.System (ServiceState P T) (ServiceAction P T) where
  step := ServiceState.step
  allowed := fun _ _ => True

def percentSum (traffic : List TrafficTarget) : Nat := (traffic.map TrafficTarget.percent).sum

theorem splitToTrafficTargets_exact {entries : List TrafficSplitEntry}
    {targets : List TrafficTarget} (converted : splitToTrafficTargets entries = .ok targets) :
    targets.map (fun target => (target.revisionId, target.percent * 100)) =
      entries.map fun entry => (entry.revisionId, entry.weightBps.toNat) := by
  induction entries generalizing targets with
  | nil =>
      cases converted
      rfl
  | cons entry rest ih =>
      unfold splitToTrafficTargets at converted
      split at converted
      · cases converted
      · next whole =>
          obtain ⟨later, laterOk, done⟩ := Lib.bind_ok converted
          cases done
          have weight : entry.weightBps.toNat / 100 * 100 = entry.weightBps.toNat := by omega
          simp [ih laterOk, weight]

theorem enforceSplitInvariants_ok {env : Environment} {deploymentId : DeploymentId}
    {entries : List TrafficSplitEntry}
    (recorded : enforceSplitInvariants env deploymentId = .ok entries) :
    (∃ split ∈ env.trafficSplits, split.deploymentId = deploymentId ∧ split.entries = entries) ∧
      (entries.map fun entry => entry.weightBps.toNat).sum = 10000 := by
  unfold enforceSplitInvariants at recorded
  split at recorded
  · cases recorded
  · next split found =>
      simp only at recorded
      split at recorded
      · cases recorded
      · next total =>
          cases recorded
          have member := List.mem_of_find?_eq_some found
          have same := List.find?_some found
          exact ⟨⟨split, member, by simpa using same, rfl⟩, by simpa using total⟩

theorem SplitPlan.percentSum_targets (plan : SplitPlan) : percentSum plan.targets = 100 := by
  have exactTargets := splitToTrafficTargets_exact plan.converted
  have total := (enforceSplitInvariants_ok plan.recorded).2
  have weights : (plan.targets.map fun target => target.percent * 100).sum = 10000 := by
    have second := congrArg (List.map Prod.snd) exactTargets
    simp only [List.map_map, Function.comp_def] at second
    rw [second, total]
  rw [List.sum_map_mul_right] at weights
  have scaled : percentSum plan.targets * 100 = 10000 := weights
  omega

theorem percentSum_warmTraffic (revisionId : RevisionId) (status : ServiceStatus)
    (full : percentSum status.traffic = 100) :
    percentSum (warmTraffic revisionId (some status)) = 100 := by
  unfold warmTraffic
  simp only
  split
  · exact full
  · simpa [percentSum] using full

namespace ServiceState

variable {P T : Type}

/-- The percentages are full, every etag seen was given out, and an etag that is
still the live one stands for the traffic that was read with it. -/
structure Sound (state : ServiceState P T) : Prop where
  full : ∀ live, state.provider.service = some live → percentSum live.traffic = 100
  readPresent : ∀ client read, (state.phase client).read = some read →
    state.provider.service ≠ none
  readIssued : ∀ client read, (state.phase client).read = some read →
    read.etag ≤ state.provider.etagCounter
  liveIssued : ∀ live, state.provider.service = some live →
    live.etag ≤ state.provider.etagCounter
  readCurrent : ∀ client read live, (state.phase client).read = some read →
    state.provider.service = some live → live.etag = read.etag → live.traffic = read.traffic

variable [DecidableEq P]

/-- The provider after an accepted write of `traffic`. -/
def Accepted (state next : ServiceState P T) (client : P) (traffic : List TrafficTarget) : Prop :=
  next.provider.service = some ⟨traffic, state.provider.etagCounter + 1⟩ ∧
    next.provider.etagCounter = state.provider.etagCounter + 1 ∧
    next.phase = Function.update state.phase client .idle

/-- Everything a call of one client can do. -/
inductive Effect (state : ServiceState P T) (client : P) (next : ServiceState P T) : Prop
  | move (phase : ServicePhase T) (moved : next = state.moveTo client phase)
      (reads : ∀ read, phase.read = some read → state.provider.service = some read)
  | stay (same : next = state)
  | created (plan : WarmPlan T) (attempt : Nat)
      (standing : state.phase client = .upserting plan attempt none)
      (absent : state.provider.service = none)
      (accepted : Accepted state next client [⟨plan.revisionId, 100⟩])
  | warmed (plan : WarmPlan T) (attempt : Nat) (read live : ServiceStatus)
      (standing : state.phase client = .upserting plan attempt (some read))
      (present : state.provider.service = some live) (current : live.etag = read.etag)
      (accepted : Accepted state next client (warmTraffic plan.revisionId (some live)))
  | split (plan : SplitPlan) (attempt : Nat) (read live : ServiceStatus)
      (standing : state.phase client = .settingTraffic plan attempt read)
      (present : state.provider.service = some live) (current : live.etag = read.etag)
      (accepted : Accepted state next client plan.targets)

theorem startWarm_effect (state : ServiceState P T) (client : P) (plan : WarmPlan T) :
    Effect state client (state.startWarm client plan) := by
  unfold startWarm
  split
  · exact .move _ rfl (by simp [ServicePhase.read])
  · exact .stay rfl

theorem startSplit_effect (state : ServiceState P T) (client : P) (env : Environment)
    (deploymentId : DeploymentId) :
    Effect state client (state.startSplit client env deploymentId) := by
  unfold startSplit
  split
  · split
    · exact .move _ rfl (by simp [ServicePhase.read])
    · exact .stay rfl
  · exact .stay rfl

theorem upsert_effect [DecidableEq T] {state : ServiceState P T} (sound : state.Sound)
    {client : P} {plan : WarmPlan T} {attempt : Nat} {existing : Option ServiceStatus}
    (standing : state.phase client = .upserting plan attempt existing) :
    Effect state client (state.settle client (.reclassifying plan attempt)
      (state.provider.upsertService (warmSpec plan existing)
        (existing.map ServiceStatus.etag))) := by
  unfold Provider.upsertService
  split
  · exact .move _ rfl (by simp [ServicePhase.read])
  · next accepted =>
      split
      · exact .move _ rfl (by simp [ServicePhase.read])
      · cases existing with
        | none =>
            cases live : state.provider.service with
            | none => exact .created plan attempt standing live ⟨rfl, rfl, rfl⟩
            | some status => simp [Provider.etagAccepted, live] at accepted
        | some read =>
            have reading : (state.phase client).read = some read := by rw [standing]; rfl
            cases live : state.provider.service with
            | none => exact absurd live (sound.readPresent client read reading)
            | some status =>
                have sameEtag : status.etag = read.etag := by
                  simpa [Provider.etagAccepted, live] using accepted
                have sameTraffic := sound.readCurrent client read status reading live sameEtag
                refine .warmed plan attempt read status standing live sameEtag ⟨?_, rfl, rfl⟩
                simp [settle, moveTo, warmSpec, warmTraffic, sameTraffic]

theorem setTraffic_effect {state : ServiceState P T} {client : P} {plan : SplitPlan}
    {attempt : Nat} {read : ServiceStatus} (retry : ServicePhase T)
    (standing : state.phase client = .settingTraffic plan attempt read)
    (fresh : retry.read = none) :
    Effect state client
      (state.settle client retry (state.provider.setTraffic plan.targets read.etag)) := by
  unfold Provider.setTraffic
  split
  · exact .move _ rfl (by simp [ServicePhase.read])
  · next live present =>
      split
      · exact .move _ rfl (by simp [fresh])
      · next current =>
          exact .split plan attempt read live standing present (not_not.mp current) ⟨rfl, rfl, rfl⟩

theorem advance_effect [DecidableEq T] {state : ServiceState P T} (sound : state.Sound)
    (client : P) : Effect state client (state.advance client) := by
  unfold advance
  split
  · exact .stay rfl
  · split
    · exact .move _ rfl (by simp [ServicePhase.read])
    · exact .move _ rfl (by simp [ServicePhase.read])
    · exact .move _ rfl (by simp [ServicePhase.read])
  · exact .move _ rfl (by simp [ServicePhase.read])
  · next plan attempt existing standing => exact upsert_effect sound standing
  · split
    · split
      · exact .move _ rfl (by simp [ServicePhase.read])
      · exact .move _ rfl (by simp [ServicePhase.read])
    · exact .move _ rfl (by simp [ServicePhase.read])
    · exact .move _ rfl (by simp [ServicePhase.read])
  · split
    · exact .move _ rfl (by simp [ServicePhase.read])
    · next status present =>
        exact .move _ rfl (by simp [ServicePhase.read, present])
  · next plan attempt read standing =>
      refine setTraffic_effect _ standing ?_
      split <;> rfl

theorem step_effect [DecidableEq T] {state : ServiceState P T} (sound : state.Sound)
    (action : ServiceAction P T) :
    Effect state action.client ((serviceClients P T).step state action) := by
  cases action with
  | startWarm client plan => exact startWarm_effect state client plan
  | startSplit client env deploymentId => exact startSplit_effect state client env deploymentId
  | advance client => exact advance_effect sound client
  | fail client => exact .move .idle rfl (by simp [ServicePhase.read])

namespace Sound

variable {state next : ServiceState P T} {client : P}

theorem of_move (sound : state.Sound) {phase : ServicePhase T}
    (reads : ∀ read, phase.read = some read → state.provider.service = some read) :
    (state.moveTo client phase).Sound := by
  have known : ∀ other read, ((state.moveTo client phase).phase other).read = some read →
      (state.phase other).read = some read ∨ state.provider.service = some read := by
    intro other read holds
    by_cases same : other = client
    · subst same
      exact .inr (reads read (by simpa [moveTo] using holds))
    · exact .inl (by simpa [moveTo, Function.update_of_ne same] using holds)
  constructor
  · exact sound.full
  · intro other read holds
    rcases known other read holds with before | now
    · exact sound.readPresent other read before
    · simp [moveTo, now]
  · intro other read holds
    rcases known other read holds with before | now
    · exact sound.readIssued other read before
    · exact sound.liveIssued read now
  · exact sound.liveIssued
  · intro other read live holds present sameEtag
    rcases known other read holds with before | now
    · exact sound.readCurrent other read live before present sameEtag
    · have same := Option.some.inj (present.symm.trans now)
      rw [same]

theorem of_accepted (sound : state.Sound) {traffic : List TrafficTarget}
    (full : percentSum traffic = 100) (accepted : Accepted state next client traffic) :
    next.Sound := by
  obtain ⟨service, counter, phases⟩ := accepted
  have known : ∀ other read, (next.phase other).read = some read →
      read.etag ≤ state.provider.etagCounter := by
    intro other read holds
    rw [phases] at holds
    by_cases same : other = client
    · subst same
      simp [ServicePhase.read] at holds
    · rw [Function.update_of_ne same] at holds
      exact sound.readIssued other read holds
  constructor
  · intro live present
    rw [service] at present
    cases present
    exact full
  · intro other read _
    simp [service]
  · intro other read holds
    have issued := known other read holds
    omega
  · intro live present
    rw [service] at present
    cases present
    simp [counter]
  · intro other read live holds present sameEtag
    -- A fresh etag is no etag any client has read.
    have issued := known other read holds
    rw [service] at present
    cases present
    simp only at sameEtag
    omega

theorem of_effect (sound : state.Sound) (effect : Effect state client next) : next.Sound := by
  cases effect with
  | move phase moved reads =>
      subst moved
      exact sound.of_move reads
  | stay same =>
      subst same
      exact sound
  | created plan attempt standing absent accepted =>
      exact sound.of_accepted (by simp [percentSum]) accepted
  | warmed plan attempt read live standing present current accepted =>
      have full := percentSum_warmTraffic plan.revisionId live (sound.full live present)
      exact sound.of_accepted full accepted
  | split plan attempt read live standing present current accepted =>
      exact sound.of_accepted plan.percentSum_targets accepted

end Sound

end ServiceState

section Traffic

variable {P T : Type} [DecidableEq P] [DecidableEq T]

/-- No call under way; a Service already there has all its traffic on named
revisions. -/
def ServiceState.Quiet (state : ServiceState P T) : Prop :=
  (∀ client, state.phase client = .idle) ∧
    ∀ live, state.provider.service = some live →
      percentSum live.traffic = 100 ∧ live.etag ≤ state.provider.etagCounter

omit [DecidableEq P] [DecidableEq T] in
theorem ServiceState.Sound.of_quiet {state : ServiceState P T} (quiet : state.Quiet) :
    state.Sound where
  full := fun live present => (quiet.2 live present).1
  readPresent := by simp [quiet.1, ServicePhase.read]
  readIssued := by simp [quiet.1, ServicePhase.read]
  liveIssued := fun live present => (quiet.2 live present).2
  readCurrent := by simp [quiet.1, ServicePhase.read]

/-- The percentages of the split a plan was given, basis points divided by 100. -/
def SplitPlan.Exact (plan : SplitPlan) (traffic : List TrafficTarget) : Prop :=
  ∃ split ∈ plan.env.trafficSplits, split.deploymentId = plan.deploymentId ∧
    traffic.map (fun target => (target.revisionId, target.percent * 100)) =
      split.entries.map fun entry => (entry.revisionId, entry.weightBps.toNat)

theorem SplitPlan.exact_targets (plan : SplitPlan) : plan.Exact plan.targets := by
  obtain ⟨split, recorded, same, entries⟩ := (enforceSplitInvariants_ok plan.recorded).1
  have exactTargets := splitToTrafficTargets_exact plan.converted
  rw [← entries] at exactTargets
  exact ⟨split, recorded, same, exactTargets⟩

def WarmsTo (plan : WarmPlan T) (live : Option ServiceStatus) (traffic : List TrafficTarget) :
    Prop :=
  match live with
  | none => traffic = [⟨plan.revisionId, 100⟩]
  | some live => traffic =
    if live.traffic.any fun target => target.revisionId = plan.revisionId then live.traffic
    else live.traffic ++ [⟨plan.revisionId, 0⟩]

/-- The Service changes only by the accepted write of a warm or of a split. -/
def TrafficChange (state : ServiceState P T) (client : P) (next : ServiceState P T) : Prop :=
  next.provider.service = state.provider.service ∨
  (∃ plan attempt existing traffic, state.phase client = .upserting plan attempt existing ∧
    existing.map ServiceStatus.etag = state.provider.service.map ServiceStatus.etag ∧
    next.provider.service.map ServiceStatus.traffic = some traffic ∧
    WarmsTo plan state.provider.service traffic) ∨
  ∃ plan attempt read traffic, state.phase client = .settingTraffic plan attempt read ∧
    state.provider.service.map ServiceStatus.etag = some read.etag ∧
    next.provider.service.map ServiceStatus.traffic = some traffic ∧ plan.Exact traffic

structure TrafficSafe (state : ServiceState P T) : Prop where
  full : ∀ live, state.provider.service = some live → percentSum live.traffic = 100
  changes : ∀ action,
    TrafficChange state action.client ((serviceClients P T).step state action)
  /-- A split under the live etag is accepted, one under a stale etag is not. -/
  splits : ∀ client plan attempt read live,
    state.phase client = .settingTraffic plan attempt read → state.provider.service = some live →
    (live.etag = read.etag → ∃ traffic, plan.Exact traffic ∧
      ((serviceClients P T).step state (.advance client)).provider.service =
        some ⟨traffic, state.provider.etagCounter + 1⟩) ∧
    (live.etag ≠ read.etag →
      ((serviceClients P T).step state (.advance client)).provider.service = some live)
  /-- A warm that read the live Service is accepted, unless its revision is there with
  another template; one that read another Service is not. -/
  warms : ∀ client plan attempt existing, state.phase client = .upserting plan attempt existing →
    (existing.map ServiceStatus.etag = state.provider.service.map ServiceStatus.etag →
      (∀ record, state.provider.revisions plan.revisionId = some record →
        record.template = plan.template) →
      ∃ traffic, WarmsTo plan state.provider.service traffic ∧
        ((serviceClients P T).step state (.advance client)).provider.service =
          some ⟨traffic, state.provider.etagCounter + 1⟩) ∧
    (existing.map ServiceStatus.etag ≠ state.provider.service.map ServiceStatus.etag →
      ((serviceClients P T).step state (.advance client)).provider.service =
        state.provider.service)

variable {state : ServiceState P T} {client : P}

omit [DecidableEq T] in
theorem warmsTo_warmTraffic (plan : WarmPlan T) (live : Option ServiceStatus) :
    WarmsTo plan live (warmTraffic plan.revisionId live) := by
  cases live <;> rfl

omit [DecidableEq T] in
theorem changes_of_effect {next : ServiceState P T}
    (effect : ServiceState.Effect state client next) : TrafficChange state client next := by
  cases effect with
  | move phase moved reads =>
      rw [moved]
      exact .inl rfl
  | stay same =>
      rw [same]
      exact .inl rfl
  | created plan attempt standing absent accepted =>
      refine .inr (.inl ⟨plan, attempt, none, [⟨plan.revisionId, 100⟩], standing, ?_, ?_, ?_⟩)
      · simp only [absent, Option.map_none]
      · rw [accepted.1]
        rfl
      · rw [absent]
        rfl
  | warmed plan attempt read live standing present current accepted =>
      refine .inr (.inl ⟨plan, attempt, some read, warmTraffic plan.revisionId (some live),
        standing, ?_, ?_, ?_⟩)
      · rw [present, Option.map_some, Option.map_some, current]
      · rw [accepted.1]
        rfl
      · rw [present]
        exact warmsTo_warmTraffic plan (some live)
  | split plan attempt read live standing present current accepted =>
      refine .inr (.inr ⟨plan, attempt, read, plan.targets, standing, ?_, ?_, plan.exact_targets⟩)
      · rw [present, Option.map_some, current]
      · rw [accepted.1]
        rfl

theorem split_settles {plan : SplitPlan} {attempt : Nat} {read live : ServiceStatus}
    (standing : state.phase client = .settingTraffic plan attempt read)
    (present : state.provider.service = some live) :
    (live.etag = read.etag → ((serviceClients P T).step state (.advance client)).provider.service =
      some ⟨plan.targets, state.provider.etagCounter + 1⟩) ∧
    (live.etag ≠ read.etag →
      ((serviceClients P T).step state (.advance client)).provider.service = some live) := by
  constructor
  · intro current
    simp [serviceClients, ServiceState.step, ServiceState.advance, standing, Provider.setTraffic,
      present, current, ServiceState.settle, ServiceState.moveTo]
  · intro stale
    simp [serviceClients, ServiceState.step, ServiceState.advance, standing, Provider.setTraffic,
      present, stale, ServiceState.settle, ServiceState.moveTo]

theorem warm_settles (sound : state.Sound) {plan : WarmPlan T} {attempt : Nat}
    {existing : Option ServiceStatus} (standing : state.phase client = .upserting plan attempt existing) :
    (existing.map ServiceStatus.etag = state.provider.service.map ServiceStatus.etag →
      (∀ record, state.provider.revisions plan.revisionId = some record →
        record.template = plan.template) →
      ((serviceClients P T).step state (.advance client)).provider.service =
        some ⟨warmTraffic plan.revisionId state.provider.service,
          state.provider.etagCounter + 1⟩) ∧
    (existing.map ServiceStatus.etag ≠ state.provider.service.map ServiceStatus.etag →
      ((serviceClients P T).step state (.advance client)).provider.service =
        state.provider.service) := by
  have traffic : existing.map ServiceStatus.etag = state.provider.service.map ServiceStatus.etag →
      warmTraffic plan.revisionId existing = warmTraffic plan.revisionId state.provider.service := by
    intro current
    cases existing with
    | none =>
        cases live : state.provider.service with
        | none => rfl
        | some status => simp [live] at current
    | some read =>
        cases live : state.provider.service with
        | none => simp [live] at current
        | some status =>
            have reading : (state.phase client).read = some read := by rw [standing]; rfl
            have sameEtag : status.etag = read.etag := by simpa [live] using current.symm
            simp [warmTraffic, sound.readCurrent client read status reading live sameEtag]
  have accepts : Provider.etagAccepted state.provider.service (existing.map ServiceStatus.etag) =
      true ↔ existing.map ServiceStatus.etag = state.provider.service.map ServiceStatus.etag := by
    cases existing with
    | none => cases live : state.provider.service <;> simp [Provider.etagAccepted]
    | some read =>
        have reading : (state.phase client).read = some read := by rw [standing]; rfl
        cases live : state.provider.service with
        | none => exact absurd live (sound.readPresent client read reading)
        | some status => simp [Provider.etagAccepted, eq_comm]
  constructor
  · intro current immutable
    have free : (state.provider.revisions plan.revisionId).any (fun live =>
        live.template ≠ plan.template) = false := by
      cases found : state.provider.revisions plan.revisionId with
      | none => rfl
      | some record => simp [immutable record found]
    have accepted := accepts.mpr current
    simp only [serviceClients, ServiceState.step, ServiceState.advance, standing,
      Provider.upsertService, accepted, warmSpec, free, traffic current, ServiceState.settle,
      ServiceState.moveTo, Bool.true_eq_false, Bool.false_eq_true, if_false]
  · intro stale
    have refused := Bool.not_eq_true _ ▸ mt accepts.mp stale
    simp [serviceClients, ServiceState.step, ServiceState.advance, standing, Provider.upsertService,
      refused, ServiceState.settle, ServiceState.moveTo]

/-- In every state of every interleaving the percentages sum to 100. A step changes the
Service only by an accepted write: a warm keeps the live traffic, with its own revision
added at 0, or at 100 where it creates the Service, and a split leaves exactly the
entries it was given. What was read under the live etag is accepted, under a fresh
etag, and nothing else is. -/
theorem warm_never_moves_traffic (start : ServiceState P T) (quiet : start.Quiet)
    (actions : List (ServiceAction P T)) :
    ∀ visited ∈ (serviceClients P T).states start actions, TrafficSafe visited := by
  intro visited member
  have admits := (serviceClients P T).admits_of_allowed (fun _ _ => trivial) start actions
  have sound : visited.Sound := by
    refine (serviceClients P T).invariant ServiceState.Sound ?_ start actions admits
      (.of_quiet quiet) visited member
    intro state action _ holds
    exact holds.of_effect (ServiceState.step_effect holds action)
  refine ⟨sound.full, ?_, ?_, ?_⟩
  · exact fun action => changes_of_effect (ServiceState.step_effect sound action)
  · intro client plan attempt read live standing present
    obtain ⟨accepted, refused⟩ := split_settles standing present
    exact ⟨fun current => ⟨plan.targets, plan.exact_targets, accepted current⟩, refused⟩
  · intro client plan attempt existing standing
    obtain ⟨accepted, refused⟩ := warm_settles sound standing
    exact ⟨fun current immutable => ⟨_, warmsTo_warmTraffic plan _, accepted current immutable⟩,
      refused⟩

end Traffic

/-- No Service, no revision, nobody at work. -/
def undeployed : ServiceState Bool Unit where
  provider := ⟨none, fun _ => none, 0⟩
  phase := fun _ => .idle

theorem undeployed_quiet : undeployed.Quiet := by
  constructor
  · intro client
    rfl
  · intro live present
    cases present

/-- Two warms that both read before either writes: the second one loses the
etag race and retries. -/
def racingWarms : List (ServiceAction Bool Unit) :=
  [.startWarm false ⟨⟨1⟩, "a", ()⟩, .startWarm true ⟨⟨2⟩, "b", ()⟩, .advance false, .advance true,
    .advance false, .advance true, .advance false, .advance true, .advance true, .advance true,
    .advance true]

/-- The split moves a tenth of the traffic to the second revision. -/
def canary : Environment where
  schema := ⟨SchemaVersion.environmentV1⟩
  environmentId := ⟨"local"⟩
  name := "local"
  hostConfig := ⟨⟨"local"⟩, none, none, none, none, none, none⟩
  packs := []
  credentialsRef := none
  bundles := []
  revisions := []
  trafficSplits := [⟨⟨SchemaVersion.trafficSplitV1⟩, ⟨"local"⟩, ⟨1⟩, ⟨"demo"⟩, 1,
    [⟨⟨1⟩, 9000⟩, ⟨⟨2⟩, 1000⟩], 0, "op", "key", "auth", none⟩]
  messagingEndpoints := []
  extensions := []
  revocation := ⟨false, none⟩
  retention := ⟨none, none⟩
  health := ⟨.unknown, none, none⟩

/-- The first client goes on to read the Service for the split. -/
def warmsThenSplit : List (ServiceAction Bool Unit) :=
  racingWarms ++ [.startSplit false canary ⟨1⟩, .advance false]

theorem racing_warms_keep_traffic :
    let warmed := (serviceClients Bool Unit).run undeployed racingWarms
    let ready := (serviceClients Bool Unit).run undeployed warmsThenSplit
    warmed.provider.service = some ⟨[⟨⟨1⟩, 100⟩, ⟨⟨2⟩, 0⟩], 2⟩ ∧
      ((serviceClients Bool Unit).step ready (.advance false)).provider.service =
        some ⟨[⟨⟨1⟩, 90⟩, ⟨⟨2⟩, 10⟩], 3⟩ ∧
      TrafficSafe warmed ∧ TrafficSafe ready := by
  refine ⟨by decide, by decide, ?_, ?_⟩
  · exact warm_never_moves_traffic undeployed undeployed_quiet racingWarms _
      ((serviceClients Bool Unit).run_mem_states _ _)
  · exact warm_never_moves_traffic undeployed undeployed_quiet warmsThenSplit _
      ((serviceClients Bool Unit).run_mem_states _ _)

end GreenticDeployer.CloudRun
