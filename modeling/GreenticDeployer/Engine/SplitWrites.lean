import GreenticDeployer.Engine.EntriesMatch
import GreenticDeployer.Engine.Sequences
import GreenticDeployer.Engine.PersistRule

/-!
# What a traffic call writes

A call that succeeds either finds its own key on the live split and writes
nothing, or writes the one split it returns: in a new place, or over the live
one with that one in its stash.
-/

set_option maxHeartbeats 200000

namespace GreenticDeployer.Engine

open Spec Lib

def splitOf (env : Environment) (id : DeploymentId) : Option TrafficSplit :=
  env.trafficSplits.find? fun s => s.deploymentId = id

theorem splitOf_eq_some {env : Environment} {id : DeploymentId} {live : TrafficSplit}
    (present : splitOf env id = some live) :
    ∃ found, locate (fun s => s.deploymentId = id) env.trafficSplits = some found ∧
      found.hit = live :=
  locate_of_find? present

theorem splitOf_located {env : Environment} {id : DeploymentId} {found : Located TrafficSplit}
    (located : locate (fun s => s.deploymentId = id) env.trafficSplits = some found) :
    splitOf env id = some found.hit := by
  rw [splitOf, find?_eq_locate, located]
  rfl

/-- The deployment of a call is there, and the revisions it routes are its own. -/
structure Standing (env : Environment) (id : DeploymentId) (entries : List TrafficSplitEntry) :
    Prop where
  deployed : id ∈ deploymentIds env
  owned : AllOwned env id entries

theorem find?_of_deployed {env : Environment} {id : DeploymentId}
    (deployed : id ∈ deploymentIds env) :
    ∃ deployment, env.bundles.find? (fun b => b.deploymentId = id) = some deployment := by
  obtain ⟨bundle, member, same⟩ := List.mem_map.mp deployed
  apply Option.isSome_iff_exists.mp
  rw [List.find?_isSome]
  exact ⟨bundle, member, by simpa using same⟩

theorem deployed_of_find? {env : Environment} {id : DeploymentId} {deployment : BundleDeployment}
    (found : env.bundles.find? (fun b => b.deploymentId = id) = some deployment) :
    id ∈ deploymentIds env := by
  have same : deployment.deploymentId = id := by simpa using List.find?_some found
  exact List.mem_map.mpr ⟨deployment, List.mem_of_find?_eq_some found, same⟩

theorem checkEntriesOwned_of_owned {env : Environment} {id : DeploymentId}
    {entries : List TrafficSplitEntry} (owned : AllOwned env id entries) :
    checkEntriesOwned env id entries = .ok () := by
  induction entries with
  | nil => rfl
  | cons head rest ih =>
      obtain ⟨revision, present, own⟩ := owned head List.mem_cons_self
      rw [revisionOf] at present
      simp only [checkEntriesOwned, present, own, ne_eq, not_true_eq_false, if_false]
      exact ih fun entry member => owned entry (List.mem_cons_of_mem head member)

theorem Standing.reordered {env : Environment} {id : DeploymentId}
    {entries others : List TrafficSplitEntry} (standing : Standing env id entries)
    (reordered : entries.Perm others) : Standing env id others where
  deployed := standing.deployed
  owned := fun entry member => standing.owned entry (reordered.mem_iff.mpr member)

section

variable (serde : SerdeJson) (env : Environment) (payload : SetTrafficSplitPayload)
  (key : IdempotencyKey)

/-- A split as a call writes it. -/
structure Written (split : TrafficSplit) : Prop where
  deploymentId : split.deploymentId = payload.deploymentId
  entries : split.entries = payload.entries
  stamp : split.idempotencyKey = key.asStr
  valid : split.validate = .ok ()

/-- What a call that succeeds returns and leaves behind. -/
inductive SetCall : TrafficSplitTransition → Environment → Prop
  | replay (live : TrafficSplit) (present : splitOf env payload.deploymentId = some live)
      (stamped : live.idempotencyKey = key.asStr)
      (matched : entriesMatch live.entries payload.entries = true) :
      SetCall ⟨live, none, none⟩ env
  | first (split : TrafficSplit) (vacant : splitOf env payload.deploymentId = none)
      (written : Written payload key split) (ready : AllReady env payload.entries)
      (generation : split.generation = 0) (unstashed : split.previousSplitRef = none) :
      SetCall ⟨split, none, some split.generation⟩
        { env with trafficSplits := env.trafficSplits ++ [split] }
  | overwrite (found : Located TrafficSplit) (split : TrafficSplit) (value : serde.Value)
      (located : locate (fun s => s.deploymentId = payload.deploymentId) env.trafficSplits =
        some found)
      (unstamped : found.hit.idempotencyKey ≠ key.asStr)
      (written : Written payload key split) (ready : AllReady env payload.entries)
      (generation : split.generation = found.hit.generation + 1)
      (encoded : serde.split.toValue { found.hit with previousSplitRef := none } = .ok value)
      (stashed : split.previousSplitRef = some (stashInline serde value)) :
      SetCall ⟨split, some found.hit.generation, some split.generation⟩
        { env with trafficSplits := found.replace split }

end

variable {serde : SerdeJson} {env after : Environment} {payload : SetTrafficSplitPayload}
  {key : IdempotencyKey} {now : DateTime} {result : TrafficSplitTransition}

theorem applyTrafficSplit_first {bundleId : BundleId}
    (vacant : splitOf env payload.deploymentId = none)
    (ran : applyTrafficSplit serde env payload key now bundleId none = (.ok result, after)) :
    SetCall serde env payload key result after := by
  simp only [applyTrafficSplit, Option.map_none, nextSplitState] at ran
  split at ran
  · cases ran
  rename_i admitted
  split at ran
  · cases ran
  rename_i valid
  cases ran
  exact .first _ vacant ⟨rfl, rfl, rfl, valid⟩ (assertEntriesAllReady_ok admitted) rfl rfl

theorem applyTrafficSplit_over {bundleId : BundleId} {found : Located TrafficSplit}
    (located : locate (fun s => s.deploymentId = payload.deploymentId) env.trafficSplits =
      some found)
    (unstamped : found.hit.idempotencyKey ≠ key.asStr)
    (ran : applyTrafficSplit serde env payload key now bundleId (some found) =
      (.ok result, after)) : SetCall serde env payload key result after := by
  simp only [applyTrafficSplit, Option.map_some, nextSplitState] at ran
  split at ran
  · cases ran
  rename_i admitted
  split at ran
  · cases ran
  rename_i generation token previous state
  split at ran
  · cases ran
  rename_i valid
  cases ran
  cases encoded : serde.split.toValue { found.hit with previousSplitRef := none } with
  | error detail =>
      rw [encoded] at state
      cases state
  | ok value =>
      rw [encoded] at state
      cases state
      exact .overwrite found _ value located unstamped ⟨rfl, rfl, rfl, valid⟩
        (assertEntriesAllReady_ok admitted) rfl encoded rfl

theorem applyTrafficSplit_mutated {bundleId : BundleId} {found : Option (Located TrafficSplit)}
    (ran : applyTrafficSplit serde env payload key now bundleId found = (.ok result, after)) :
    result.mutated = true := by
  simp only [applyTrafficSplit] at ran
  split at ran
  · cases ran
  split at ran
  · cases ran
  split at ran
  · cases ran
  cases ran
  rfl

/-- Inversion of a successful call. -/
theorem setTrafficSplit_cases
    (ran : setTrafficSplit serde env payload key now = (.ok result, after)) :
    Standing env payload.deploymentId payload.entries ∧
      SetCall serde env payload key result after := by
  simp only [setTrafficSplit] at ran
  split at ran
  · cases ran
  rename_i deployment deployed
  split at ran
  · cases ran
  rename_i checked
  refine ⟨⟨deployed_of_find? deployed, checkEntriesOwned_ok checked⟩, ?_⟩
  split at ran
  · rename_i absent
    apply applyTrafficSplit_first _ ran
    rw [splitOf, find?_eq_locate, absent]
    rfl
  rename_i found located
  split at ran
  · rename_i stamped
    split at ran
    · rename_i matched
      cases ran
      exact .replay found.hit (splitOf_located located) stamped matched
    · cases ran
  · rename_i unstamped
    exact applyTrafficSplit_over located unstamped ran

theorem assertEntriesAllReady_of_ready {entries : List TrafficSplitEntry}
    (ready : AllReady env entries) : assertEntriesAllReady env entries = .ok () := by
  induction entries with
  | nil => rfl
  | cons head rest ih =>
      obtain ⟨revision, present, live⟩ := ready head List.mem_cons_self
      rw [revisionOf] at present
      simp only [assertEntriesAllReady, present, live, ne_eq, not_true_eq_false, if_false]
      exact ih fun entry member => ready entry (List.mem_cons_of_mem head member)

def rolledBack (live snapshot : TrafficSplit) (now : DateTime) : TrafficSplit :=
  { snapshot with
    generation := live.generation + 1
    previousSplitRef := none
    updatedAt := now
    idempotencyKey := "rollback-" ++ live.idempotencyKey }

theorem rollbackTrafficSplit_decoded {id : DeploymentId} {found : Located TrafficSplit}
    {token : PathBuf} {snapshot : TrafficSplit}
    (located : locate (fun s => s.deploymentId = id) env.trafficSplits = some found)
    (stashed : found.hit.previousSplitRef = some token)
    (decodes : decodeSplit serde token = some snapshot) :
    rollbackTrafficSplit serde env id now =
      match (rolledBack found.hit snapshot now).validate with
      | .error e => (.error (.invalid e), env)
      | .ok () =>
        match assertEntriesAllReady env snapshot.entries with
        | .error e => (.error e, env)
        | .ok () =>
          (.ok ⟨rolledBack found.hit snapshot now, found.hit.generation,
              found.hit.generation + 1⟩,
            { env with trafficSplits := found.replace (rolledBack found.hit snapshot now) }) := by
  obtain ⟨value, loaded, decoded⟩ := Option.bind_eq_some_iff.mp decodes
  have restored : serde.split.fromValue value = .ok snapshot := by
    cases outcome : serde.split.fromValue value with
    | error detail =>
        rw [outcome] at decoded
        cases decoded
    | ok split =>
        rw [outcome] at decoded
        cases decoded
        rfl
  simp only [rollbackTrafficSplit, located, stashed, loaded, restored]
  rfl

structure RollbackCall (serde : SerdeJson) (env : Environment) (id : DeploymentId)
    (now : DateTime) (found : Located TrafficSplit) (token : PathBuf) (snapshot : TrafficSplit) :
    Prop where
  located : locate (fun s => s.deploymentId = id) env.trafficSplits = some found
  stashed : found.hit.previousSplitRef = some token
  decodes : decodeSplit serde token = some snapshot
  valid : (rolledBack found.hit snapshot now).validate = .ok ()
  ready : AllReady env snapshot.entries

theorem rollbackTrafficSplit_cases {id : DeploymentId} {rolled : TrafficRollbackTransition}
    (ran : rollbackTrafficSplit serde env id now = (.ok rolled, after)) :
    ∃ found token snapshot, RollbackCall serde env id now found token snapshot ∧
      rolled = ⟨rolledBack found.hit snapshot now, found.hit.generation,
        found.hit.generation + 1⟩ ∧
      after = { env with
        trafficSplits := found.replace (rolledBack found.hit snapshot now) } := by
  simp only [rollbackTrafficSplit] at ran
  split at ran
  · cases ran
  rename_i found located
  split at ran
  · cases ran
  rename_i token stashed
  split at ran
  · cases ran
  rename_i value loaded
  split at ran
  · cases ran
  rename_i snapshot decoded
  split at ran
  · cases ran
  rename_i valid
  split at ran
  · cases ran
  rename_i admitted
  cases ran
  refine ⟨found, token, snapshot, ⟨located, stashed, ?_, valid, ?_⟩, rfl, rfl⟩
  · simp [decodeSplit, loaded, decoded, Except.toOption]
  · exact assertEntriesAllReady_ok admitted

theorem setTrafficSplit_retry {live : TrafficSplit} {entries : List TrafficSplitEntry}
    (standing : Standing env payload.deploymentId entries) (routes : payload.entries ⊆ entries)
    (present : splitOf env payload.deploymentId = some live)
    (stamped : live.idempotencyKey = key.asStr) :
    setTrafficSplit serde env payload key now =
      if entriesMatch live.entries payload.entries then (.ok ⟨live, none, none⟩, env)
      else (.error (.idempotencyKeyReused key.asStr payload.deploymentId), env) := by
  obtain ⟨deployment, deployed⟩ := find?_of_deployed standing.deployed
  obtain ⟨found, located, rfl⟩ := splitOf_eq_some present
  have owned : AllOwned env payload.deploymentId payload.entries :=
    fun entry member => standing.owned entry (routes member)
  simp only [setTrafficSplit, deployed, checkEntriesOwned_of_owned owned, located, stamped,
    if_true]

end GreenticDeployer.Engine
