import GreenticDeployer.Engine.Retirement
import GreenticDeployer.K8s.Drains
import GreenticDeployer.Engine.SplitWrites

/-!
# A drain refused for its traffic

A drain stamps a ready revision before it asks whether the recorded split still routes to
it, so that no reconcile starts the worker again. A refusal keeps the stamp.
-/

set_option maxHeartbeats 200000

namespace GreenticDeployer.K8s

open Spec Engine Lib
open Sor (K8sParams)

def drainReady (id : RevisionId) (revision : Revision) : Revision :=
  if revision.revisionId = id ∧ revision.lifecycle = .ready then
    { revision with lifecycle := .draining }
  else revision

/-- The first revision of the id, which is the one every search finds, is stamped if it is
ready. -/
def drained (env : Environment) (id : RevisionId) : Environment :=
  match locate (fun r => r.revisionId = id) env.revisions with
  | none => env
  | some found => { env with revisions := found.replace (drainReady id found.hit) }

theorem drainReady_revisionId (id : RevisionId) (revision : Revision) :
    (drainReady id revision).revisionId = revision.revisionId := by
  unfold drainReady
  split <;> rfl

theorem drainReady_deploymentId (id : RevisionId) (revision : Revision) :
    (drainReady id revision).deploymentId = revision.deploymentId := by
  unfold drainReady
  split <;> rfl

theorem drained_frame (env : Environment) (id : RevisionId) :
    drained env id = { env with revisions := (drained env id).revisions } := by
  unfold drained
  split <;> rfl

theorem drainReady_of_ne {id : RevisionId} {revision : Revision} (apart : revision.revisionId ≠ id) :
    drainReady id revision = revision :=
  if_neg fun both => apart both.1

theorem revisionOf_drained (env : Environment) (id other : RevisionId) :
    revisionOf (drained env id) other = (revisionOf env other).map (drainReady id) := by
  have unstamped : ∀ revision, revisionOf env other = some revision → other ≠ id →
      drainReady id revision = revision := fun revision there apart =>
    drainReady_of_ne ((revisionOf_revisionId there).trans_ne apart)
  cases located : locate (fun r => r.revisionId = id) env.revisions with
  | none =>
      have same : drained env id = env := by simp only [drained, located]
      rw [same]
      cases there : revisionOf env other with
      | none => rfl
      | some revision =>
          have apart : other ≠ id := by
            rintro rfl
            rw [revisionOf, find?_eq_locate, located] at there
            cases there
          rw [Option.map_some, unstamped revision there apart]
  | some found =>
      have own : found.hit.revisionId = id := by simpa using (locate_eq_some located).2.1
      have still := (drainReady_revisionId id found.hit).trans own
      have stamped : drained env id =
          { env with revisions := found.replace (drainReady id found.hit) } := by
        simp only [drained, located]
      rw [stamped]
      by_cases same : other = id
      · subst same
        rw [revisionOf_located located]
        exact found.find?_replace located (decide_eq_true still)
      · have elsewhere : revisionOf { env with
            revisions := found.replace (drainReady id found.hit) } other = revisionOf env other :=
          Located.find?_replace_of_ne located
            (decide_eq_false fun hit => same (hit.symm.trans own))
            (decide_eq_false fun hit => same (hit.symm.trans still))
        rw [elsewhere]
        cases there : revisionOf env other with
        | none => rfl
        | some revision => rw [Option.map_some, unstamped revision there same]

theorem drained_of_not_ready {env : Environment} {id : RevisionId}
    (idle : ∀ revision, revisionOf env id = some revision → revision.lifecycle ≠ .ready) :
    drained env id = env := by
  cases located : locate (fun r => r.revisionId = id) env.revisions with
  | none => simp only [drained, located]
  | some found =>
      have kept : drainReady id found.hit = found.hit :=
        if_neg fun both => idle found.hit (revisionOf_located located) both.2
      have whole : found.replace found.hit = env.revisions := (locate_eq_some located).1.symm
      simp only [drained, located, kept, whole]

/-- The engine's verb stamps just so. -/
theorem drainRevision_ok {env after : Environment} {id : RevisionId}
    {transition : RevisionTransition} (ran : drainRevision env id = (.ok transition, after)) :
    after = drained env id := by
  cases located : locate (fun r => r.revisionId = id) env.revisions with
  | none => simp [drainRevision, walkRevisionChain, drainChain, located] at ran
  | some found =>
      have own : found.hit.revisionId = id := by simpa using (locate_eq_some located).2.1
      cases stage : found.hit.lifecycle with
      | ready =>
          rw [drainRevision_eq located (by rw [stage]; rfl)] at ran
          cases ran
          have stamped : drainReady id found.hit = { found.hit with lifecycle := .draining } :=
            if_pos ⟨own, stage⟩
          simp only [drained, located, stamped]
      | draining =>
          rw [drainRevision_eq located (by rw [stage]; rfl)] at ran
          cases ran
          have same : { found.hit with lifecycle := .draining } = found.hit := by
            rw [← stage]
          have kept : drainReady id found.hit = found.hit := by
            simp only [drainReady, stage, reduceCtorEq, and_false, if_false]
          simp only [drained, located, kept, same]
      | _ =>
          simp [drainRevision, walkRevisionChain, drainChain, located, missesStart, stage,
            walkEdges] at ran

/-- The refusal of a drain whose revision the recorded split still routes to. -/
def isSplitRefusal : RouterError → Bool
  | .notDrained _ (.recordedWeight _) => true
  | _ => false

section Alone

variable {serde : SerdeJson} {ext : Externals} {answers : Option K8sParams} {policy : DrainPolicy}
variable {world : World} {α β : Type}

def Ends (serde : SerdeJson) (ext : Externals) (post : World → Except RouterError α → Prop)
    (world : World) (program : Operating α) : Prop :=
  program.run.Alone (fun _ _ => True) (fun (k : Unit) _ _ => k) (access serde ext)
    (fun _ after outcome => post after outcome) () world

theorem Ends.andThen {post : World → Except RouterError α → Prop}
    {post' : World → Except RouterError β → Prop} {program : Operating α} {f : α → Operating β}
    (first : Ends serde ext post world program)
    (fails : ∀ later e, post later (.error e) → post' later (.error e))
    (rest : ∀ later a, post later (.ok a) → Ends serde ext post' later (f a)) :
    Ends serde ext post' world (program >>= f) :=
  Program.Alone.andThen first (fun _ later e => fails later e) fun _ later a => rest later a

theorem Ends.checks {post : World → Except RouterError β → Prop} {outcome : Except RouterError α}
    {f : α → Operating β} (fails : ∀ e, outcome = .error e → post world (.error e))
    (rest : ∀ a, outcome = .ok a → Ends serde ext post world (f a)) :
    Ends serde ext post world (Program.lift outcome >>= f) :=
  Program.Alone.liftThen fails rest

theorem Ends.attempt {post : World → Except RouterError α → Prop} {error : RouterError}
    {call : RouterCall} {outcome : call.Reply → Option α}
    (holds : ∀ outside, post (access serde ext outside world call).2
      (match outcome (access serde ext outside world call).1 with
        | some value => .ok value
        | none => .error error)) :
    Ends serde ext post world (K8s.attempt error call outcome) :=
  fun _ input => holds input

def Otherwise (outcome : Except RouterError α) : Prop :=
  ∀ e, outcome = .error e → isSplitRefusal e = false

theorem Otherwise.error {e : RouterError} (other : isSplitRefusal e = false) :
    Otherwise (α := α) (.error e) :=
  fun _ failed => by cases failed; exact other

/-- Whatever the program ends with, it is not the split's refusal. -/
def Clear (serde : SerdeJson) (ext : Externals) (world : World) (program : Operating α) : Prop :=
  Ends serde ext (fun _ => Otherwise) world program

theorem Clear.andThen {program : Operating α} {f : α → Operating β}
    (first : Clear serde ext world program) (rest : ∀ later a, Clear serde ext later (f a)) :
    Clear serde ext world (program >>= f) :=
  Ends.andThen first (fun _ e other => .error (other e rfl)) fun later a _ => rest later a

theorem Clear.lift {outcome : Except RouterError α} (other : Otherwise outcome) :
    Clear serde ext world (Program.lift outcome) := other

theorem Clear.attempt {error : RouterError} (other : isSplitRefusal error = false)
    {call : RouterCall} {outcome : call.Reply → Option α} :
    Clear serde ext world (K8s.attempt error call outcome) := by
  refine Ends.attempt fun outside => ?_
  split
  · intro e failed
    cases failed
  · exact .error other

theorem probeDrained_otherwise (worker : Worker) (status : Option RolloutStatus) :
    Otherwise ((probeDrained worker.deployment status).mapError
      (.notDrained worker.revisionId)) := by
  unfold probeDrained
  intro e failed
  split at failed
  · cases failed
  · split at failed <;> cases failed
    rfl

theorem confirmWithin_clear (worker : Worker) (probes : Nat) :
    Clear serde ext world (confirmWithin worker probes) := by
  induction probes generalizing world with
  | zero => exact .andThen (.attempt rfl) fun _ status => .lift (probeDrained_otherwise worker status)
  | succ probes ih =>
      refine .andThen (.attempt rfl) fun later status => ?_
      split
      · have passes : Otherwise (.ok () : Except RouterError Unit) := fun e failed => by cases failed
        exact .lift passes
      · exact ih

theorem judgeRouter_otherwise (ref : Sor.ObjectRef) (id : RevisionId) (live : Option ConfigMap) :
    Otherwise (judgeRouter ref id live) := by
  intro e failed
  cases live with
  | none => cases failed
  | some map =>
      simp only [judgeRouter] at failed
      rcases bind_error failed with unread | ⟨weight, -, weighted⟩
      · unfold liveWeight at unread
        split at unread <;> cases unread <;> rfl
      · split at weighted <;> cases weighted
        rfl

theorem drainEnforced_refused (loaded : Snapshot) (id : RevisionId) (probes : Nat) :
    Ends serde ext (fun after outcome => ∀ e, outcome = .error e → isSplitRefusal e = true →
      after = world) world (drainEnforced answers policy loaded id probes) := by
  refine .checks (fun _ _ _ _ _ => rfl) fun worker placed => ?_
  refine .checks (fun _ _ _ _ _ => rfl) fun _ unrouted => ?_
  refine .checks (fun _ _ _ _ _ => rfl) fun params parsed => ?_
  have clear : Clear serde ext world (do
      push loaded params
      requireRouterUnrouted params id
      Program.ask (.sleep (drainWindow policy loaded.env id)) .ok
      attempt .provider (.scaleToZero worker) fun scaled => scaled
      confirmWithin worker probes) := by
    refine .andThen (.attempt rfl) fun _ _ => ?_
    refine .andThen (.andThen (.attempt rfl) fun _ live => .lift (judgeRouter_otherwise _ id live))
      fun _ _ => ?_
    refine .andThen ?_ fun _ _ => ?_
    · intro _ _ e failed
      cases failed
    refine .andThen (.attempt rfl) fun _ _ => ?_
    exact confirmWithin_clear worker probes
  refine Program.Alone.mono clear fun _ _ outcome otherwise e failed refusal => ?_
  rw [otherwise e failed] at refusal
  cases refusal

theorem read_ends {call : RouterCall} {outcome : call.Reply → Option α} {value : α}
    (reads : ∀ outside, (access serde ext outside world call).2 = world ∧
      outcome (access serde ext outside world call).1 =
        outside.turn.reply.map fun _ => value) :
    Ends serde ext (fun later outcome => later = world ∧
      (outcome = .ok value ∨ outcome = .error .store)) world (attempt .store call outcome) := by
  refine Ends.attempt fun outside => ?_
  obtain ⟨same, replied⟩ := reads outside
  refine ⟨same, ?_⟩
  rw [replied]
  cases outside.turn with
  | done => exact .inl rfl
  | failed effective => exact .inr rfl

theorem loadEnv_ends :
    Ends serde ext (fun later outcome => later = world ∧
      (outcome = .ok world.store.env ∨ outcome = .error .store)) world
      (attempt .store .loadEnv id) :=
  read_ends fun _ => ⟨rfl, rfl⟩

theorem load_ends :
    Ends serde ext (fun later outcome => later = world ∧
      (outcome = .ok world.store ∨ outcome = .error .store)) world load :=
  read_ends fun _ => ⟨rfl, rfl⟩

theorem stampReady_ends (id : RevisionId) :
    Ends serde ext (fun later outcome =>
      (outcome = .ok () ∧ later.store.env = drained world.store.env id) ∨
        outcome = .error .store) world (stampReady world.store.env id) := by
  unfold stampReady
  split
  · refine Ends.attempt fun outside => ?_
    simp only [access]
    cases ran : drainRevision world.store.env id with
    | mk result after =>
        cases result with
        | error e => exact .inr rfl
        | ok transition =>
            cases turn : outside.turn with
            | done => exact .inl ⟨rfl, drainRevision_ok ran⟩
            | failed effective => exact .inr rfl
  · rename_i idle
    refine .inl ⟨rfl, (drained_of_not_ready fun revision there ready => idle ?_).symm⟩
    refine List.any_eq_true.mpr ⟨revision, List.mem_of_find?_eq_some there, ?_⟩
    exact decide_eq_true ⟨revisionOf_revisionId there, ready⟩

/-- A drain that the recorded split stops leaves the stamp behind, and nothing else. -/
theorem drainRevisionWith_refused (id : RevisionId) (probes : Nat) :
    Ends serde ext (fun after outcome => ∀ e, outcome = .error e → isSplitRefusal e = true →
      after.store.env = drained world.store.env id) world
      (drainRevisionWith answers policy id probes) := by
  refine Ends.andThen loadEnv_ends ?_ ?_
  · rintro later e ⟨-, loaded | failed⟩ _ same refusal
    · cases loaded
    · cases failed
      cases same
      cases refusal
  rintro later env ⟨rfl, loaded | failed⟩
  rotate_left
  · cases failed
  cases loaded
  refine Ends.checks ?_ fun _ _ => ?_
  · intro e failed other same refusal
    cases same
    unfold parseRevision at failed
    split at failed <;> cases failed
    cases refusal
  refine Ends.andThen (stampReady_ends id) ?_ ?_
  · rintro later e (⟨stamped, -⟩ | failed) _ same refusal
    · cases stamped
    · cases failed
      cases same
      cases refusal
  rintro stamped _ (⟨-, drained⟩ | failed)
  rotate_left
  · cases failed
  refine Ends.andThen load_ends ?_ ?_
  · rintro later e ⟨-, loaded | failed⟩ _ same refusal
    · cases loaded
    · cases failed
      cases same
      cases refusal
  rintro later loaded ⟨rfl, -⟩
  refine Program.Alone.mono (drainEnforced_refused loaded id probes)
    fun _ after outcome unchanged e failed refusal => ?_
  rw [unchanged e failed refusal]
  exact drained

end Alone

section Admission

variable {serde : SerdeJson} {env : Environment} {id : RevisionId}

@[simp] theorem drained_environmentId : (drained env id).environmentId = env.environmentId := by
  rw [drained_frame]

@[simp] theorem drained_bundles : (drained env id).bundles = env.bundles := by
  rw [drained_frame]

@[simp] theorem drained_trafficSplits : (drained env id).trafficSplits = env.trafficSplits := by
  rw [drained_frame]

theorem checkEntriesOwned_drained (deploymentId : DeploymentId)
    (entries : List TrafficSplitEntry) :
    checkEntriesOwned (drained env id) deploymentId entries =
      checkEntriesOwned env deploymentId entries := by
  induction entries with
  | nil => rfl
  | cons head rest ih =>
      have found := revisionOf_drained env id head.revisionId
      unfold revisionOf at found
      simp only [checkEntriesOwned, found, ih, drained_environmentId]
      cases env.revisions.find? fun r => r.revisionId = head.revisionId with
      | none => rfl
      | some revision => simp only [Option.map_some, drainReady_deploymentId]

theorem assertEntriesAllReady_drained {entries : List TrafficSplitEntry}
    (admitted : assertEntriesAllReady env entries = .ok ()) :
    assertEntriesAllReady (drained env id) entries =
      if ∃ entry ∈ entries, entry.revisionId = id then .error (.notReady id .draining)
      else .ok () := by
  induction entries with
  | nil => simp [assertEntriesAllReady]
  | cons head rest ih =>
      have found := revisionOf_drained env id head.revisionId
      unfold revisionOf at found
      simp only [assertEntriesAllReady, found] at admitted ⊢
      cases there : env.revisions.find? fun r => r.revisionId = head.revisionId with
      | none =>
          rw [there] at admitted
          cases admitted
      | some revision =>
          simp only [there] at admitted
          split at admitted
          · cases admitted
          rename_i ready
          have own : revision.revisionId = head.revisionId := revisionOf_revisionId there
          by_cases named : head.revisionId = id
          · have stamped : drainReady id revision = { revision with lifecycle := .draining } :=
              if_pos ⟨own.trans named, not_not.mp ready⟩
            rw [if_pos ⟨head, List.mem_cons_self, named⟩]
            simp [stamped, named]
          · have kept : drainReady id revision = revision := drainReady_of_ne (own.trans_ne named)
            simp only [Option.map_some, kept, if_neg ready, ih admitted, List.mem_cons,
              exists_eq_or_imp, named, false_or]

theorem applyTrafficSplit_drained {payload : SetTrafficSplitPayload} {key : IdempotencyKey}
    {now : DateTime} {bundleId : BundleId} {found : Option (Located TrafficSplit)}
    {result : TrafficSplitTransition}
    (ran : (Engine.applyTrafficSplit serde env payload key now bundleId found).1 = .ok result) :
    result.mutated = true ∧
      (Engine.applyTrafficSplit serde (drained env id) payload key now bundleId found).1 =
        if ∃ entry ∈ payload.entries, entry.revisionId = id then .error (.notReady id .draining)
        else .ok result := by
  have whole : Engine.applyTrafficSplit serde env payload key now bundleId found =
      (.ok result, (Engine.applyTrafficSplit serde env payload key now bundleId found).2) :=
    Prod.ext ran rfl
  refine ⟨applyTrafficSplit_mutated whole, ?_⟩
  unfold Engine.applyTrafficSplit at ran ⊢
  cases ready : assertEntriesAllReady env payload.entries with
  | error e =>
      rw [ready] at ran
      cases ran
  | ok _ =>
      rw [ready] at ran
      rw [assertEntriesAllReady_drained ready]
      by_cases named : ∃ entry ∈ payload.entries, entry.revisionId = id
      · simp only [if_pos named]
      · simp only [if_neg named, drained_environmentId]
        simp only at ran
        split at ran
        · cases ran
        · split at ran
          · cases ran
          · exact ran

/-- An admitted split is admitted on the stamped environment, with the same result, or it
wrote an entry for the stamped revision and is refused for it. -/
theorem setTrafficSplit_drained {payload : SetTrafficSplitPayload} {key : IdempotencyKey}
    {now : DateTime} {result : TrafficSplitTransition}
    (admitted : (setTrafficSplit serde env payload key now).1 = .ok result) :
    (setTrafficSplit serde (drained env id) payload key now).1 =
      if result.mutated = true ∧ ∃ entry ∈ payload.entries, entry.revisionId = id then
        .error (.notReady id .draining)
      else .ok result := by
  have applies : ∀ bundleId found,
      (Engine.applyTrafficSplit serde env payload key now bundleId found).1 = .ok result →
      (Engine.applyTrafficSplit serde (drained env id) payload key now bundleId found).1 =
        if result.mutated = true ∧ ∃ entry ∈ payload.entries, entry.revisionId = id then
          .error (.notReady id .draining)
        else .ok result := by
    intro bundleId found ran
    obtain ⟨mutated, outcome⟩ := @applyTrafficSplit_drained serde env id _ _ _ _ _ _ ran
    rw [outcome]
    simp only [mutated, true_and]
  simp only [setTrafficSplit, drained_bundles, drained_trafficSplits,
    checkEntriesOwned_drained] at admitted ⊢
  split at admitted
  · cases admitted
  split at admitted
  · cases admitted
  split at admitted
  · exact applies _ _ admitted
  split at admitted
  · split at admitted
    · cases admitted
      simp [TrafficSplitTransition.mutated, *]
    · cases admitted
  · rename_i other
    rw [if_neg other]
    exact applies _ _ admitted

end Admission

/-- A drain that fails because the recorded split routes to its revision has stamped the
revision if it was ready, and changed nothing else of the environment. A split admitted
before is admitted after, but for one that writes an entry of the stamped revision. -/
theorem refused_drain_stamps {serde : SerdeJson} {ext : Externals} {answers : Option K8sParams}
    {policy : DrainPolicy} {id : RevisionId} {probes weight : Nat} {world after : World}
    {inputs : List Outside}
    (refused : (drainRevisionWith answers policy id probes).run.solo (access serde ext) world
      inputs = some (.error (.notDrained id (.recordedWeight weight)), after)) :
    after.store.env = drained world.store.env id ∧
      ∀ payload key now result,
        (setTrafficSplit serde world.store.env payload key now).1 = .ok result →
        (setTrafficSplit serde after.store.env payload key now).1 =
          if result.mutated = true ∧ ∃ entry ∈ payload.entries, entry.revisionId = id then
            .error (.notReady id .draining)
          else .ok result := by
  obtain ⟨_, ends⟩ := (drainRevisionWith_refused id probes).solo (fun _ _ => trivial) refused
  have stamped : after.store.env = drained world.store.env id := ends _ rfl rfl
  refine ⟨stamped, fun payload key now result admitted => ?_⟩
  rw [stamped]
  exact setTrafficSplit_drained admitted

def routedWorld : World :=
  .start ((engine firstSplitJson noExternals).run localFresh (routedRun.take 4)) fun _ => none

def routedDrain : Option (Except RouterError Unit × World) :=
  (drainRevisionWith (some sampleParams) samplePolicy ⟨7⟩ 0).run.solo
    (access firstSplitJson noExternals) routedWorld (List.replicate 3 ⟨.done, none⟩)

/-- The split of the demo revision once more, under a key of its own. -/
def sameSplit : SetTrafficSplitPayload := ⟨⟨1⟩, [⟨⟨7⟩, 10000⟩], "op", none⟩

def admits (env : Environment) : Bool :=
  (setTrafficSplit firstSplitJson env sameSplit secondKey 4).1.isOk

theorem routed_drain_stamps : ∃ after,
    routedDrain = some (.error (.notDrained ⟨7⟩ (.recordedWeight 10000)), after) ∧
      after.store.env = drained routedWorld.store.env ⟨7⟩ := by
  have refused : routedDrain.map (·.1) =
      some (.error (.notDrained ⟨7⟩ (.recordedWeight 10000))) := by decide
  obtain ⟨ran, there, outcome⟩ := Option.map_eq_some_iff.mp refused
  have whole : routedDrain = some (.error (.notDrained ⟨7⟩ (.recordedWeight 10000)), ran.2) := by
    rw [there, ← outcome]
  exact ⟨ran.2, whole, (refused_drain_stamps whole).1⟩

/-- The drain is refused, and the revision takes no split any more. -/
theorem refused_drain_withdraws :
    routedDrain.map (·.1) = some (.error (.notDrained ⟨7⟩ (.recordedWeight 10000))) ∧
    admits routedWorld.store.env = true ∧
    (routedDrain.map fun ran => admits ran.2.store.env) = some false ∧
    (routedDrain.map fun ran => ran.2.store.env) ≠ some routedWorld.store.env := by
  refine ⟨by decide, by decide, by decide, by decide⟩

end GreenticDeployer.K8s
