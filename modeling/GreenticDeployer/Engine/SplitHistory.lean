import GreenticDeployer.Engine.SplitWrites

/-!
# Setting and rolling back

The stash of a split is one step deep. A set over a live split puts that split,
without its own stash, into the new one; a rollback takes it out again and
leaves no stash behind.
-/

set_option maxHeartbeats 200000

namespace GreenticDeployer.Engine

open Spec Lib

structure Restores (previous : TrafficSplit) (id : DeploymentId)
    (rolled : TrafficRollbackTransition) (final : Environment) : Prop where
  live : splitOf final id = some rolled.restored
  entries : rolled.restored.entries = previous.entries
  bundleId : rolled.restored.bundleId = previous.bundleId
  authorizationRef : rolled.restored.authorizationRef = previous.authorizationRef
  generation : previous.generation.toNat + 2 < 2 ^ 64 →
    rolled.restored.generation.toNat = previous.generation.toNat + 2

theorem toNat_succ {n : UInt64} (room : n.toNat + 1 < 2 ^ 64) : (n + 1).toNat = n.toNat + 1 := by
  rw [UInt64.toNat_add, UInt64.toNat_one]
  exact Nat.mod_eq_of_lt room

variable {serde : SerdeJson} {env after : Environment} {payload : SetTrafficSplitPayload}
  {key : IdempotencyKey} {now later : DateTime} {result : TrafficSplitTransition}
  {previous : TrafficSplit}

/-- A set that writes over a live split, with what the next rollback will read. -/
structure Covered (serde : SerdeJson) (env after : Environment) (id : DeploymentId)
    (previous split : TrafficSplit) (found : Located TrafficSplit) (token : PathBuf) : Prop where
  located : locate (fun s => s.deploymentId = id) after.trafficSplits = some found
  hit : found.hit = split
  generation : split.generation = previous.generation + 1
  stashed : split.previousSplitRef = some token
  decodes : decodeSplit serde token = some { previous with previousSplitRef := none }
  deployment : previous.deploymentId = id
  revisions : after.revisions = env.revisions

theorem setTrafficSplit_covers
    (ran : setTrafficSplit serde env payload key now = (.ok result, after))
    (mutated : result.mutated = true)
    (live : splitOf env payload.deploymentId = some previous) :
    ∃ found token, Covered serde env after payload.deploymentId previous result.split found
      token := by
  obtain ⟨-, call⟩ := setTrafficSplit_cases ran
  cases call with
  | replay => cases mutated
  | first split vacant =>
      rw [live] at vacant
      cases vacant
  | overwrite found split value located unstamped written ready generation encoded stashed =>
      have same : found.hit = previous := by
        rw [splitOf_located located] at live
        exact Option.some.inj live
      subst same
      have replaced := Located.find?_replace located (by simpa using written.deploymentId)
      obtain ⟨again, searched, hit⟩ := locate_of_find? replaced
      have own : found.hit.deploymentId = payload.deploymentId := by
        simpa using (locate_eq_some located).2.1
      exact ⟨again, _, searched, hit, generation, stashed, decodeSplit_stashInline encoded, own,
        rfl⟩

theorem allReady_of_revisions {entries : List TrafficSplitEntry}
    (same : after.revisions = env.revisions) :
    AllReady after entries ↔ AllReady env entries := by
  simp only [AllReady, revisionOf, same]

theorem rollback_restores {id : DeploymentId} {split : TrafficSplit} (later : DateTime)
    {found : Located TrafficSplit} {token : PathBuf}
    (covered : Covered serde env after id previous split found token)
    (valid : previous.validate = .ok ()) (ready : AllReady env previous.entries) :
    ∃ rolled final, rollbackTrafficSplit serde after id later = (.ok rolled, final) ∧
      Restores previous id rolled final ∧ rolled.restored.previousSplitRef = none := by
  have admitted := assertEntriesAllReady_of_ready
    ((allReady_of_revisions covered.revisions).mpr ready)
  let restored := rolledBack found.hit { previous with previousSplitRef := none } later
  have accepted : restored.validate = .ok () := valid
  refine ⟨⟨restored, found.hit.generation, found.hit.generation + 1⟩,
    { after with trafficSplits := found.replace restored }, ?_, ⟨?_, rfl, rfl, rfl, ?_⟩, rfl⟩
  · rw [rollbackTrafficSplit_decoded covered.located (covered.hit ▸ covered.stashed)
      covered.decodes, accepted]
    simp only [admitted]
    rfl
  · have own : restored.deploymentId = id := covered.deployment
    exact Located.find?_replace covered.located (by simpa using own)
  · intro room
    have first : split.generation.toNat = previous.generation.toNat + 1 := by
      rw [covered.generation]
      exact toNat_succ (by omega)
    calc restored.generation.toNat
        = (split.generation + 1).toNat := by rw [← covered.hit]; rfl
      _ = split.generation.toNat + 1 := toNat_succ (by omega)
      _ = previous.generation.toNat + 2 := by rw [first]

theorem rollback_refused {id : DeploymentId} {split : TrafficSplit}
    {found : Located TrafficSplit} {token : PathBuf}
    (covered : Covered serde env after id previous split found token)
    (unfit : ¬ (previous.validate = .ok () ∧ AllReady env previous.entries)) :
    ∃ e, rollbackTrafficSplit serde after id later = (.error e, after) := by
  rw [rollbackTrafficSplit_decoded covered.located (covered.hit ▸ covered.stashed)
    covered.decodes]
  split
  · exact ⟨_, rfl⟩
  rename_i valid
  split
  · exact ⟨_, rfl⟩
  rename_i admitted
  have ready := (allReady_of_revisions covered.revisions).mp (assertEntriesAllReady_ok admitted)
  exact absurd ⟨valid, ready⟩ unfit

/-- A split without a stash is not rolled back. -/
theorem rollback_unstashed {id : DeploymentId} {live : TrafficSplit}
    (present : splitOf env id = some live) (unstashed : live.previousSplitRef = none) :
    ∃ e, rollbackTrafficSplit serde env id later = (.error e, env) := by
  obtain ⟨found, located, rfl⟩ := splitOf_eq_some present
  refine ⟨.noPreviousSnapshot id, ?_⟩
  simp only [rollbackTrafficSplit, located, unstashed]

inductive SplitCall where
  | set (payload : SetTrafficSplitPayload) (key : IdempotencyKey) (now : DateTime)
  | rollback (now : DateTime)

def SplitCall.verb (id : DeploymentId) : SplitCall → Verb
  | .set payload key now => .setTrafficSplit { payload with deploymentId := id } key now
  | .rollback now => .rollbackTrafficSplit id now

section

variable (serde : SerdeJson) (ext : Externals) (id : DeploymentId)

/-- Runs of sets and rollbacks on one deployment. -/
def splitCalls : System Environment SplitCall where
  step := fun env call => persist serde ext env (call.verb id)
  allowed := fun _ _ => True

def mutates (env : Environment) (call : SplitCall) : Bool :=
  (callVerb serde ext env (call.verb id)).1 = .mutated

def mutations : Environment → List SplitCall → Nat
  | _, [] => 0
  | env, call :: rest =>
    (if mutates serde ext id env call then 1 else 0) +
      mutations (persist serde ext env (call.verb id)) rest

/-- The stash of the live split, if it has one, is what a call left there: a
split of the deployment without a stash of its own. -/
def StashKept (env : Environment) : Prop :=
  ∀ live, splitOf env id = some live → live.previousSplitRef = none ∨
    ∃ token snapshot, live.previousSplitRef = some token ∧
      decodeSplit serde token = some snapshot ∧ snapshot.deploymentId = id ∧
      snapshot.previousSplitRef = none

end

/-- The mutating calls a live split has seen, the first one at generation 0. -/
def age (env : Environment) (id : DeploymentId) : Nat :=
  match splitOf env id with
  | none => 0
  | some live => live.generation.toNat + 1

theorem age_of_live {id : DeploymentId} {live : TrafficSplit}
    (present : splitOf env id = some live) : age env id = live.generation.toNat + 1 := by
  simp only [age, present]

/-- What one call does to the live split. -/
structure Ages (serde : SerdeJson) (id : DeploymentId) (env after : Environment)
    (mutated : Bool) : Prop where
  kept : StashKept serde id after
  quiet : mutated = false → after = env
  older : mutated = true → age env id < 2 ^ 64 → age after id = age env id + 1

theorem Ages.same {id : DeploymentId} (kept : StashKept serde id env) :
    Ages serde id env env false where
  kept := kept
  quiet := fun _ => rfl
  older := fun wrong => by cases wrong

theorem stashKept_of_live {id : DeploymentId} {live : TrafficSplit}
    (present : splitOf env id = some live)
    (stash : live.previousSplitRef = none ∨
      ∃ token snapshot, live.previousSplitRef = some token ∧
        decodeSplit serde token = some snapshot ∧ snapshot.deploymentId = id ∧
        snapshot.previousSplitRef = none) : StashKept serde id env := by
  intro other there
  rw [present] at there
  cases there
  exact stash

theorem SetCall.ages (call : SetCall serde env payload key result after)
    (kept : StashKept serde payload.deploymentId env) :
    Ages serde payload.deploymentId env (if result.mutated then after else env)
      result.mutated := by
  cases call with
  | replay live present stamped matched => exact .same kept
  | first split vacant written ready generation unstashed =>
      have present : splitOf { env with trafficSplits := env.trafficSplits ++ [split] }
          payload.deploymentId = some split := by
        rw [splitOf] at vacant ⊢
        simp [List.find?_append, vacant, written.deploymentId]
      refine ⟨stashKept_of_live present (.inl unstashed), (fun wrong => by cases wrong), ?_⟩
      intro _ _
      calc age { env with trafficSplits := env.trafficSplits ++ [split] } payload.deploymentId
          = split.generation.toNat + 1 := age_of_live present
        _ = age env payload.deploymentId + 1 := by simp [age, vacant, generation]
  | overwrite found split value located unstamped written ready generation encoded stashed =>
      have present : splitOf { env with trafficSplits := found.replace split }
          payload.deploymentId = some split :=
        Located.find?_replace located (by simpa using written.deploymentId)
      have own : found.hit.deploymentId = payload.deploymentId := by
        simpa using (locate_eq_some located).2.1
      have before := age_of_live (splitOf_located located)
      refine ⟨stashKept_of_live present (.inr ⟨_, _, stashed, decodeSplit_stashInline encoded,
        own, rfl⟩), (fun wrong => by cases wrong), ?_⟩
      intro _ room
      calc age { env with trafficSplits := found.replace split } payload.deploymentId
          = split.generation.toNat + 1 := age_of_live present
        _ = found.hit.generation.toNat + 1 + 1 := by
          rw [generation, toNat_succ (by omega)]
        _ = age env payload.deploymentId + 1 := by rw [before]

theorem setTrafficSplit_ages (ext : Externals)
    (kept : StashKept serde payload.deploymentId env) :
    Ages serde payload.deploymentId env
      (persist serde ext env (.setTrafficSplit payload key now))
      ((callVerb serde ext env (.setTrafficSplit payload key now)).1 = .mutated) := by
  obtain ⟨outcome, after, ran⟩ : ∃ outcome after,
      setTrafficSplit serde env payload key now = (outcome, after) := ⟨_, _, rfl⟩
  simp only [persist, callVerb, ran]
  cases outcome with
  | error e => exact .same kept
  | ok result =>
      have aged := (setTrafficSplit_cases ran).2.ages kept
      cases written : result.mutated with
      | true => simpa [persistMutated, reported, written] using aged
      | false => simpa [persistMutated, reported, written] using aged

theorem rollbackTrafficSplit_ages (ext : Externals) {id : DeploymentId}
    (kept : StashKept serde id env) :
    Ages serde id env (persist serde ext env (.rollbackTrafficSplit id now))
      ((callVerb serde ext env (.rollbackTrafficSplit id now)).1 = .mutated) := by
  obtain ⟨outcome, after, ran⟩ : ∃ outcome after,
      rollbackTrafficSplit serde env id now = (outcome, after) := ⟨_, _, rfl⟩
  simp only [persist, callVerb, ran]
  cases outcome with
  | error e => exact .same kept
  | ok rolled =>
      obtain ⟨found, token, snapshot, call, rfl, rfl⟩ := rollbackTrafficSplit_cases ran
      have live := splitOf_located call.located
      have own : snapshot.deploymentId = id := by
        rcases kept found.hit live with unstashed | ⟨other, previous, stashed, decodes, own, -⟩
        · rw [call.stashed] at unstashed
          cases unstashed
        · cases call.stashed.symm.trans stashed
          cases call.decodes.symm.trans decodes
          exact own
      let restored := rolledBack found.hit snapshot now
      have present : splitOf { env with trafficSplits := found.replace restored } id =
          some restored :=
        Located.find?_replace call.located (by simpa [restored, rolledBack] using own)
      have before := age_of_live live
      refine ⟨stashKept_of_live present (.inl rfl), (fun wrong => by cases wrong), ?_⟩
      intro _ room
      have advanced : restored.generation.toNat = found.hit.generation.toNat + 1 :=
        toNat_succ (by omega)
      have counted := age_of_live present
      rw [advanced, ← before] at counted
      exact counted

theorem SplitCall.ages (ext : Externals) {id : DeploymentId} (call : SplitCall)
    (kept : StashKept serde id env) :
    Ages serde id env (persist serde ext env (call.verb id)) (mutates serde ext id env call) := by
  cases call with
  | set payload key now =>
      let addressed : SetTrafficSplitPayload := { payload with deploymentId := id }
      have own : StashKept serde addressed.deploymentId env := kept
      exact setTrafficSplit_ages ext own
  | rollback now => exact rollbackTrafficSplit_ages ext kept

theorem splitCalls_ages (ext : Externals) (id : DeploymentId) (calls : List SplitCall)
    (kept : StashKept serde id env) :
    StashKept serde id ((splitCalls serde ext id).run env calls) ∧
      (age env id + mutations serde ext id env calls ≤ 2 ^ 64 →
        age ((splitCalls serde ext id).run env calls) id =
          age env id + mutations serde ext id env calls) := by
  induction calls generalizing env with
  | nil => exact ⟨kept, fun _ => rfl⟩
  | cons call rest ih =>
      have aged := call.ages ext kept
      obtain ⟨later, counted⟩ := ih aged.kept
      refine ⟨later, ?_⟩
      intro room
      cases moved : mutates serde ext id env call with
      | false =>
          have same := aged.quiet moved
          simp only [mutations, moved, Bool.false_eq_true, if_false, Nat.zero_add, same] at room ⊢
          rw [same] at counted
          simpa [System.run, splitCalls, same] using counted room
      | true =>
          simp only [mutations, moved, if_true] at room ⊢
          have older := aged.older moved (by omega)
          have rested := counted (by rw [older]; omega)
          calc age ((splitCalls serde ext id).run env (call :: rest)) id
              = age (persist serde ext env (call.verb id)) id +
                  mutations serde ext id (persist serde ext env (call.verb id)) rest := rested
            _ = _ := by rw [older]; omega

/-- A set over a live split, then a rollback: the previous split comes back two
generations on, once, as long as it is valid and its revisions are ready, and is
refused without a change otherwise. Over a whole run of sets and rollbacks the
stash holds no stash, and the generation counts the calls that mutated. -/
theorem set_then_rollback (serde : SerdeJson) (ext : Externals) (env : Environment) :
    (∀ (payload : SetTrafficSplitPayload) (key : IdempotencyKey) (now later again : DateTime)
        (result : TrafficSplitTransition) (after : Environment) (previous : TrafficSplit),
      setTrafficSplit serde env payload key now = (.ok result, after) →
      result.mutated = true → splitOf env payload.deploymentId = some previous →
      (previous.validate = .ok () ∧ AllReady env previous.entries →
        ∃ rolled final,
          rollbackTrafficSplit serde after payload.deploymentId later = (.ok rolled, final) ∧
          Restores previous payload.deploymentId rolled final ∧
          ∃ e, rollbackTrafficSplit serde final payload.deploymentId again =
            (.error e, final)) ∧
      (¬ (previous.validate = .ok () ∧ AllReady env previous.entries) →
        ∃ e, rollbackTrafficSplit serde after payload.deploymentId later =
          (.error e, after))) ∧
    ∀ (id : DeploymentId) (calls : List SplitCall), StashKept serde id env →
      StashKept serde id ((splitCalls serde ext id).run env calls) ∧
      (age env id + mutations serde ext id env calls ≤ 2 ^ 64 →
        age ((splitCalls serde ext id).run env calls) id =
          age env id + mutations serde ext id env calls) := by
  constructor
  · intro payload key now later again result after previous ran mutated live
    obtain ⟨found, token, covered⟩ := setTrafficSplit_covers ran mutated live
    constructor
    · rintro ⟨valid, ready⟩
      obtain ⟨rolled, final, back, restores, unstashed⟩ :=
        rollback_restores later covered valid ready
      exact ⟨rolled, final, back, restores, rollback_unstashed restores.live unstashed⟩
    · exact rollback_refused covered
  · intro id calls kept
    exact splitCalls_ages ext id calls kept

/-- Revision 7 routed, with revision 8 ready beside it. -/
def turnedAway : Environment :=
  (engine firstSplitJson noExternals).run localFresh
    [.addBundle demoBundle ⟨1⟩ 0 "policy.json", .stageRevision demoRevision 1,
      .warmRevision ⟨⟨7⟩, .ok (), .staged⟩ 2,
      .stageRevision { demoRevision with revisionId := ⟨8⟩ } 2,
      .warmRevision ⟨⟨8⟩, .ok (), .staged⟩ 2,
      .setTrafficSplit ⟨⟨1⟩, [⟨⟨7⟩, 10000⟩], "op", none⟩ firstKey 3]

def toEight : SetTrafficSplitPayload := ⟨⟨1⟩, [⟨⟨8⟩, 10000⟩], "op", none⟩

/-- Back from revision 8 to revision 7, while that is ready. -/
theorem set_then_rollback_of_turned :
    ∃ result after rolled final,
      setTrafficSplit firstSplitJson turnedAway toEight secondKey 4 = (.ok result, after) ∧
      rollbackTrafficSplit firstSplitJson after ⟨1⟩ 5 = (.ok rolled, final) ∧
      Restores firstSplit ⟨1⟩ rolled final ∧
      ∃ e, rollbackTrafficSplit firstSplitJson final ⟨1⟩ 6 = (.error e, final) := by
  have ready : AllReady turnedAway firstSplit.entries :=
    assertEntriesAllReady_ok (by decide)
  have applied := (set_then_rollback firstSplitJson noExternals turnedAway).1 toEight secondKey
    4 5 6 _ _ firstSplit rfl rfl rfl
  obtain ⟨rolled, final, back, restores, cleared⟩ := applied.1 ⟨by decide, ready⟩
  exact ⟨_, _, rolled, final, rfl, back, restores, cleared⟩

def turnedAwayDrained : Environment :=
  persist firstSplitJson noExternals turnedAway (.drainRevision ⟨7⟩)

/-- The same turn with revision 7 drained in between: the rollback right after
it is refused. -/
theorem rollback_to_drained_refused :
    ∃ result after,
      setTrafficSplit firstSplitJson turnedAwayDrained toEight secondKey 4 =
        (.ok result, after) ∧ result.mutated = true ∧
      splitOf turnedAwayDrained ⟨1⟩ = some firstSplit ∧
      ∃ e, rollbackTrafficSplit firstSplitJson after ⟨1⟩ 5 = (.error e, after) := by
  have unready : ¬ AllReady turnedAwayDrained firstSplit.entries := by
    intro ready
    have admitted := assertEntriesAllReady_of_ready ready
    revert admitted
    decide
  have live : splitOf turnedAwayDrained ⟨1⟩ = some firstSplit := by rfl
  obtain ⟨result, after, ran, mutated⟩ : ∃ result after,
      setTrafficSplit firstSplitJson turnedAwayDrained toEight secondKey 4 =
        (.ok result, after) ∧ result.mutated = true := ⟨_, _, rfl, rfl⟩
  obtain ⟨found, token, covered⟩ := setTrafficSplit_covers ran mutated live
  exact ⟨result, after, ran, mutated, live, rollback_refused covered fun fit => unready fit.2⟩

end GreenticDeployer.Engine
