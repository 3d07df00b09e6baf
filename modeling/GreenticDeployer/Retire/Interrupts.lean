import GreenticDeployer.Retire.Sequence

/-!
# A retire interrupted

What holds of the store and of the provider wherever a run stops, and how a run
ends: with the deployment gone, or with an error that leaves every revision not
yet torn down as the drain stamps left it.
-/

set_option maxHeartbeats 200000

namespace GreenticDeployer.Retire

open Spec Engine Lib

theorem flatten_toChunks_go {α : Type} (n : Nat) (xs : List α) (chunk : Array α)
    (chunks : Array (List α)) :
    (List.toChunks.go n xs chunk chunks).flatten =
      chunks.toList.flatten ++ (chunk.toList ++ xs) := by
  induction xs generalizing chunk chunks with
  | nil => simp [List.toChunks.go]
  | cons x xs ih =>
      rw [List.toChunks.go]
      split
      · simp [ih]
      · simp [ih]

theorem flatten_toChunks {α : Type} (n : Nat) (xs : List α) : (xs.toChunks n).flatten = xs := by
  cases xs with
  | nil => simp [List.toChunks]
  | cons x xs =>
      cases n with
      | zero => simp [List.toChunks]
      | succ n => simp [List.toChunks, flatten_toChunks_go]

variable {serde : SerdeJson} {ext : Externals} {id : DeploymentId} {bundleId : BundleId}
variable {goal before env : Environment} {keys : List (RevisionId × DeploymentId)}
variable {among : Hooks → Prop} {world : World} {steps : RetireSteps}

def stampedLifecycle (id : DeploymentId) (env : Environment) (r : RevisionId) :
    Option RevisionLifecycle :=
  (revisionOf env r).map fun revision =>
    if revision.deploymentId = id ∧ revision.lifecycle = .ready then .draining
    else revision.lifecycle

/-- Every revision not torn down is as the drain stamps left it. -/
def Stamped (id : DeploymentId) (before : Environment) (world : World) : Prop :=
  ∀ r, r ∉ world.torn → lifecycleOf world.env r = stampedLifecycle id before r

theorem lifecycleOf_replace {after : Environment} {revisionId : RevisionId}
    {lifecycle : RevisionLifecycle} {found : Located Revision}
    (located : locate (fun r => r.revisionId = revisionId) env.revisions = some found)
    (revisions : after.revisions = found.replace { found.hit with lifecycle := lifecycle }) :
    lifecycleOf after revisionId = some lifecycle ∧
      ∀ other, other ≠ revisionId → lifecycleOf after other = lifecycleOf env other := by
  have hit : found.hit.revisionId = revisionId := of_decide_eq_true (locate_eq_some located).2.1
  constructor
  · rw [lifecycleOf, revisionOf, revisions, Located.find?_replace located (by simp [hit])]
    rfl
  · intro other differs
    have apart : decide (found.hit.revisionId = other) = false := by
      simp [hit, differs.symm]
    rw [lifecycleOf, revisionOf, revisions, Located.find?_replace_of_ne located apart apart]
    rfl

theorem revisionOf_unique (unique : Unique env) {revision : Revision}
    (member : revision ∈ env.revisions) : revisionOf env revision.revisionId = some revision := by
  obtain ⟨found, located, same⟩ := locate_unique unique.revisions member rfl
  rw [revisionOf_located located, same]

theorem revisionOf_mem {r : RevisionId} {revision : Revision}
    (found : revisionOf env r = some revision) :
    revision ∈ env.revisions ∧ revision.revisionId = r := by
  have matched := List.find?_some found
  exact ⟨List.mem_of_find?_eq_some found, of_decide_eq_true matched⟩

theorem stampedLifecycle_archived {r : RevisionId}
    (archived : stampedLifecycle id env r = some .archived) :
    lifecycleOf env r = some .archived := by
  rw [stampedLifecycle] at archived
  rw [lifecycleOf]
  cases found : revisionOf env r with
  | none =>
      rw [found] at archived
      cases archived
  | some revision =>
      rw [found, Option.map_some] at archived
      split at archived
      · cases archived
      · exact archived

/-- What the plan lists, in terms of the state it was made in. -/
structure PlanOf (id : DeploymentId) (env : Environment) (steps : RetireSteps) : Prop where
  stamp : ∀ r, r ∈ steps.drainStamp ↔ ∃ revision ∈ env.revisions,
    revision.deploymentId = id ∧ revision.lifecycle = .ready ∧ revision.revisionId = r
  hook : ∀ revision ∈ env.revisions, revision.deploymentId = id →
    routable revision.lifecycle = true → revision.revisionId ∈ steps.drainHook
  teardown : ∀ revision ∈ env.revisions, revision.deploymentId = id →
    revision.revisionId ∈ steps.teardown
  archive : ∀ r ∈ steps.archive, r ∈ steps.teardown

theorem planOf (planned : retireSteps env id = .ok steps) : PlanOf id env steps := by
  rw [retireSteps] at planned
  split at planned
  · cases planned
  · cases planned
    constructor
    · intro r
      simp only [List.mem_map, List.mem_filter, decide_eq_true_eq]
      constructor
      · rintro ⟨revision, ⟨⟨inside, own⟩, ready⟩, same⟩
        exact ⟨revision, inside, own, ready, same⟩
      · rintro ⟨revision, inside, own, ready, same⟩
        exact ⟨revision, ⟨⟨inside, own⟩, ready⟩, same⟩
    · intro revision inside own live
      have drains : revision.lifecycle = .ready ∨ revision.lifecycle = .draining := by
        cases lifecycle : revision.lifecycle with
        | ready => exact .inl rfl
        | draining => exact .inr rfl
        | _ =>
          rw [lifecycle] at live
          cases live
      simp only [List.mem_map, List.mem_filter, decide_eq_true_eq]
      exact ⟨revision, ⟨⟨inside, own⟩, drains⟩, rfl⟩
    · intro revision inside own
      simp only [List.mem_map, List.mem_filter, decide_eq_true_eq]
      exact ⟨revision, ⟨inside, own⟩, rfl⟩
    · intro r listed
      obtain ⟨revision, kept, same⟩ := List.mem_map.mp listed
      exact List.mem_map.mpr ⟨revision, (List.mem_filter.mp kept).1, same⟩

/-- What a run from a state has done, at any point of it. -/
structure Sound (id : DeploymentId) (before : Environment) (world : World) : Prop where
  archived : ∀ r, lifecycleOf world.env r = some .archived →
    r ∈ world.torn ∨ lifecycleOf before r = some .archived
  ordered : world.torn ≠ [] → ∀ revision ∈ before.revisions, revision.deploymentId = id →
    routable revision.lifecycle = true → revision.revisionId ∈ world.drained
  removed : deploymentBundle world.env id = none → deploymentBundle before id ≠ none →
    ∀ revision ∈ before.revisions, revision.deploymentId = id → revision.revisionId ∈ world.torn

/-- The deployment is still there to be retired, or gone. -/
def Course (serde : SerdeJson) (id : DeploymentId) (bundleId : BundleId) (goal : Environment)
    (keys : List (RevisionId × DeploymentId)) (env : Environment) : Prop :=
  env = goal ∨ Retiring serde id bundleId goal keys env

def Hooks.Fails (hooks : Hooks) : Prop :=
  ∃ r, (hooks.drain r).isOk = false ∨ (hooks.teardown r).isOk = false

/-- What an error of a run leaves: every drain stamp made, where it is not the
preflight that refuses. -/
def Failed (id : DeploymentId) (before : Environment) (among : Hooks → Prop) (world : World) :
    Prop :=
  (∃ hooks env, among hooks ∧ (hooks.preflight env).isOk = false) ∨
    (deploymentBundle before id = none ∧ world.env = before ∨
      ∃ hooks, among hooks ∧ hooks.Fails) ∧ Stamped id before world

def Ended {α : Type} (id : DeploymentId) (before : Environment) (among : Hooks → Prop)
    (holds : World → Prop) (outcome : Except OpError α) (world : World) : Prop :=
  Program.Either holds (fun _ => Failed id before among) outcome world

/-- What holds wherever a run is cut off. -/
def Kept (serde : SerdeJson) (id : DeploymentId) (bundleId : BundleId) (goal : Environment)
    (keys : List (RevisionId × DeploymentId)) (before : Environment) (world : World) : Prop :=
  Sound id before world ∧ Course serde id bundleId goal keys world.env

theorem kept_stamped (plan : ∀ revision ∈ before.revisions, revision.deploymentId = id →
      routable revision.lifecycle = true → world.torn ≠ [] → revision.revisionId ∈ world.drained)
    (retiring : Retiring serde id bundleId goal keys world.env)
    (stamped : Stamped id before world) : Kept serde id bundleId goal keys before world := by
  refine ⟨⟨?_, ?_, ?_⟩, .inr retiring⟩
  · intro r archived
    by_cases torn : r ∈ world.torn
    · exact .inl torn
    · rw [stamped r torn] at archived
      exact .inr (stampedLifecycle_archived archived)
  · intro some_ revision inside own live
    exact plan revision inside own live some_
  · intro gone
    rw [retiring.bundle] at gone
    cases gone

/-- With some stamps still to make: the others are made, nothing is confirmed. -/
structure Stamping (serde : SerdeJson) (id : DeploymentId) (bundleId : BundleId)
    (goal : Environment) (keys : List (RevisionId × DeploymentId)) (steps : RetireSteps)
    (before : Environment) (rest : List RevisionId) (world : World) : Prop where
  winding : Winding serde id bundleId goal keys steps.archive world.env
  owned : ∀ r ∈ rest, (r, id) ∈ keys
  live : ∀ revision ∈ world.env.revisions, revision.revisionId ∈ rest →
    routable revision.lifecycle = true
  due : ∀ r ∈ rest, stampedLifecycle id before r = some .draining
  waiting : ∀ r, lifecycleOf world.env r = some .archived → lifecycleOf before r = some .archived
  done : ∀ r, r ∉ rest → lifecycleOf world.env r = stampedLifecycle id before r
  unconfirmed : world.drained = [] ∧ world.torn = []

theorem Stamping.kept {rest : List RevisionId}
    (stamping : Stamping serde id bundleId goal keys steps before rest world) :
    Kept serde id bundleId goal keys before world := by
  refine ⟨⟨?_, ?_, ?_⟩, .inr stamping.winding.retiring⟩
  · intro r archived
    exact .inr (stamping.waiting r archived)
  · intro torn
    exact absurd stamping.unconfirmed.2 torn
  · intro gone
    rw [stamping.winding.retiring.bundle] at gone
    cases gone

theorem verb_safe {inv : World → Prop} {post : Except OpError Unit → World → Prop}
    {step : Verb} (held : inv world)
    (applies : step.applies world.env = true)
    (kept : inv { world with env := persist serde ext world.env step })
    (ends : post (.ok ()) { world with env := persist serde ext world.env step }) :
    (verb step).run.Safe (exec serde ext) among inv post world := by
  refine Program.Safe.ask held (fun _ _ => kept) fun _ _ => ?_
  simp only [exec, applies, if_true]
  exact ends

theorem Stamping.turn {r : RevisionId} {rest : List RevisionId}
    (stamping : Stamping serde id bundleId goal keys steps before (r :: rest) world) :
    (verb (.drainRevision r)).run.Safe (exec serde ext) among
      (Kept serde id bundleId goal keys before)
      (Ended id before among (Stamping serde id bundleId goal keys steps before rest)) world := by
  have own := stamping.owned r List.mem_cons_self
  have live : ∀ revision ∈ world.env.revisions, revision.revisionId = r →
      routable revision.lifecycle = true :=
    fun revision inside same => stamping.live revision inside (same ▸ List.mem_cons_self)
  obtain ⟨applies, next, others⟩ := stamping.winding.drain ext own live
  obtain ⟨found, located, sameId, -⟩ := stamping.winding.retiring.revision own
  have routed := live _ (Located.mem_hit located) sameId
  have drained := drainRevision_eq located routed
  have after : (persist serde ext world.env (.drainRevision r)).revisions =
      found.replace { found.hit with lifecycle := .draining } := by
    simp only [persist, drained, persistRevision]
  obtain ⟨stamped, same⟩ := lifecycleOf_replace located after
  have later : Stamping serde id bundleId goal keys steps before rest
      { world with env := persist serde ext world.env (.drainRevision r) } := by
    refine ⟨next, fun other listed => stamping.owned other (List.mem_cons_of_mem r listed), ?_,
      fun other listed => stamping.due other (List.mem_cons_of_mem r listed), ?_, ?_,
      stamping.unconfirmed⟩
    · intro revision inside listed
      rcases others revision inside with routed | old
      · exact routed
      · exact stamping.live revision old (List.mem_cons_of_mem r listed)
    · intro other archived
      by_cases head : other = r
      · rw [head, stamped] at archived
        cases archived
      · rw [same other head] at archived
        exact stamping.waiting other archived
    · intro other absent
      by_cases head : other = r
      · rw [head, stamped, stamping.due r List.mem_cons_self]
      · rw [same other head]
        exact stamping.done other (by simp [head, absent])
  exact verb_safe stamping.kept applies later.kept later

def Joined (among : Hooks → Prop) (world : World) (r : RevisionId)
    (result : Except OpError HookResult) : Prop :=
  (∃ value, result = .ok value ∧ r ∈ world.drained) ∨
    ∃ e, result = .error e ∧ ∃ hooks, among hooks ∧ hooks.Fails

theorem joined_batch {hooks : Hooks} (considered : among hooks) (batch : List RevisionId)
    {after : World} (drained : confirmed hooks.drain batch ⊆ after.drained) :
    List.Forall₂ (Joined among after) batch (batch.map hooks.drain) := by
  rw [List.forall₂_map_right_iff, List.forall₂_same]
  intro r member
  cases outcome : hooks.drain r with
  | ok value =>
      have succeeded : (hooks.drain r).isOk = true := by
        rw [outcome]
        rfl
      exact .inl ⟨value, rfl, drained (List.mem_filter.mpr ⟨member, succeeded⟩)⟩
  | error e =>
      have failed : (hooks.drain r).isOk = false := by
        rw [outcome]
        rfl
      exact .inr ⟨e, rfl, hooks, considered, r, .inl failed⟩

def DrainsOf (among : Hooks → Prop) (world : World) (revisions : List RevisionId)
    (outcome : Except OpError (List (Except OpError HookResult))) (after : World) : Prop :=
  after.env = world.env ∧ after.torn = world.torn ∧ world.drained ⊆ after.drained ∧
    ∃ out, outcome = .ok out ∧ List.Forall₂ (Joined among after) revisions out

theorem drains_safe {inv : World → Prop}
    (kept : ∀ after : World, after.env = world.env → after.torn = world.torn →
      world.drained ⊆ after.drained → inv after) (batches : List (List RevisionId)) :
    (drainConcurrently.go batches).run.Safe (exec serde ext) among inv
      (DrainsOf among world batches.flatten) world := by
  induction batches generalizing world with
  | nil =>
      exact ⟨kept world rfl rfl fun _ member => member, rfl, rfl, fun _ member => member, [], rfl, .nil⟩
  | cons batch rest ih =>
      rw [drainConcurrently.go]
      refine Program.Safe.andThen (fun outcome after => ∃ hooks, among hooks ∧
        outcome = .ok (batch.map hooks.drain) ∧
        after = { world with drained := world.drained ++ confirmed hooks.drain batch }) ?_ ?_ ?_
      · refine Program.Safe.ask (kept world rfl rfl fun _ member => member) ?_ ?_
        · intro hooks _
          exact kept _ rfl rfl (List.subset_append_left _ _)
        · intro hooks considered
          exact ⟨hooks, considered, rfl, rfl⟩
      · rintro e _ _ ⟨hooks, _, impossible, _⟩
        cases impossible
      · rintro _ after _ ⟨hooks, considered, ⟨⟩, rfl⟩
        have later := @ih { world with
          drained := world.drained ++ confirmed hooks.drain batch } fun after sameEnv sameTorn more =>
            kept after sameEnv sameTorn (List.Subset.trans (List.subset_append_left _ _) more)
        refine Program.Safe.andThen _ later ?_ ?_
        · rintro e after _ ⟨-, -, -, out, impossible, -⟩
          cases impossible
        · rintro _ after held ⟨sameEnv, sameTorn, more, out, ⟨⟩, joined⟩
          have first : List.Forall₂ (Joined among after) batch (batch.map hooks.drain) :=
            joined_batch considered batch (List.Subset.trans (List.subset_append_right _ _) more)
          exact ⟨held, sameEnv, sameTorn, List.Subset.trans (List.subset_append_left _ _) more, _, rfl,
            List.rel_append first joined⟩

theorem drainRows_cases {revisions : List RevisionId} {out : List (Except OpError HookResult)}
    (joined : List.Forall₂ (Joined among world) revisions out) :
    ((∀ r ∈ revisions, r ∈ world.drained) ∧ ∃ rows, drainRows revisions out = .ok rows) ∨
      (∃ e, drainRows revisions out = .error e) ∧ ∃ hooks, among hooks ∧ hooks.Fails := by
  induction joined with
  | nil => exact .inl ⟨nofun, [], rfl⟩
  | cons head _ ih =>
      rcases head with ⟨value, rfl, drained⟩ | ⟨e, rfl, failing⟩
      · rcases ih with ⟨all, rows, collected⟩ | ⟨⟨e, failed⟩, failing⟩
        · refine .inl ⟨List.forall_mem_cons.mpr ⟨drained, all⟩, ?_⟩
          simp [drainRows, collected, bind, Except.bind]
        · refine .inr ⟨⟨e, ?_⟩, failing⟩
          simp [drainRows, failed, bind, Except.bind]
      · exact .inr ⟨⟨e, rfl⟩, failing⟩

structure Tearing (serde : SerdeJson) (id : DeploymentId) (bundleId : BundleId)
    (goal : Environment) (keys : List (RevisionId × DeploymentId)) (steps : RetireSteps)
    (before : Environment) (rest : List RevisionId) (world : World) : Prop where
  winding : Winding serde id bundleId goal keys (rest.filter (· ∈ steps.archive)) world.env
  stamped : Stamped id before world
  torn : ∀ r ∈ steps.teardown, r ∈ rest ∨ r ∈ world.torn
  drained : ∀ r ∈ steps.drainHook, r ∈ world.drained

section Tearing

variable (hooked : ∀ revision ∈ before.revisions, revision.deploymentId = id →
  routable revision.lifecycle = true → revision.revisionId ∈ steps.drainHook)

include hooked

theorem Tearing.kept {rest : List RevisionId}
    (tearing : Tearing serde id bundleId goal keys steps before rest world) :
    Kept serde id bundleId goal keys before world :=
  kept_stamped (fun revision inside own live _ =>
    tearing.drained _ (hooked revision inside own live)) tearing.winding.retiring tearing.stamped

theorem Tearing.confirm {r : RevisionId} {rest : List RevisionId}
    (tearing : Tearing serde id bundleId goal keys steps before (r :: rest) world) :
    Kept serde id bundleId goal keys before { world with torn := world.torn ++ [r] } := by
  refine kept_stamped (fun revision inside own live _ =>
    tearing.drained _ (hooked revision inside own live)) tearing.winding.retiring ?_
  intro other untorn
  exact tearing.stamped other fun torn => untorn (List.mem_append_left _ torn)

/-- The teardown hook alone: confirmed, or failed with nothing changed. -/
theorem Tearing.hook {r : RevisionId} {rest : List RevisionId}
    (tearing : Tearing serde id bundleId goal keys steps before (r :: rest) world) :
    (Program.ask (.teardown r) fun reply => reply.mapError (teardownFailed r) :
        RetireRun HookResult).run.Safe (exec serde ext) among
      (Kept serde id bundleId goal keys before)
      (Ended id before among fun after => after = { world with torn := world.torn ++ [r] })
      world := by
  refine Program.Safe.ask (tearing.kept hooked) ?_ ?_
  · intro hooks _
    cases outcome : hooks.teardown r with
    | ok value => simpa [exec, confirmed, outcome, Except.isOk, Except.toBool]
        using tearing.confirm hooked
    | error e => simpa [exec, confirmed, outcome, Except.isOk, Except.toBool]
        using tearing.kept hooked
  · intro hooks considered
    cases outcome : hooks.teardown r with
    | ok value =>
        simp [exec, confirmed, outcome, Except.isOk, Except.toBool, Except.mapError, Ended,
          Program.Either]
    | error e =>
        have failing : hooks.Fails := ⟨r, .inr (by rw [outcome]; rfl)⟩
        have failed : Failed id before among world :=
          .inr ⟨.inr ⟨hooks, considered, failing⟩, tearing.stamped⟩
        simpa [exec, confirmed, outcome, Except.isOk, Except.toBool, Except.mapError, Ended,
          Program.Either] using failed

omit hooked in
/-- With the head torn down and nothing of it left to archive. -/
theorem Tearing.next {r : RevisionId} {rest : List RevisionId} {after : Environment}
    (tearing : Tearing serde id bundleId goal keys steps before (r :: rest) world)
    (winding : Winding serde id bundleId goal keys (rest.filter (· ∈ steps.archive)) after)
    (same : ∀ other, other ≠ r → lifecycleOf after other = lifecycleOf world.env other) :
    Tearing serde id bundleId goal keys steps before rest
      { world with env := after, torn := world.torn ++ [r] } := by
  refine ⟨winding, ?_, ?_, tearing.drained⟩
  · intro other untorn
    have differs : other ≠ r := fun head => untorn (by simp [head])
    rw [same other differs]
    exact tearing.stamped other fun torn => untorn (List.mem_append_left _ torn)
  · intro other listed
    rcases tearing.torn other listed with head | torn
    · rcases List.mem_cons.mp head with rfl | later
      · exact .inr (by simp)
      · exact .inl later
    · exact .inr (List.mem_append_left _ torn)

theorem Tearing.turn {r : RevisionId} {rest : List RevisionId}
    (tearing : Tearing serde id bundleId goal keys steps before (r :: rest) world) :
    (teardownThenArchive steps r).run.Safe (exec serde ext) among
      (Kept serde id bundleId goal keys before)
      (Ended id before among (Tearing serde id bundleId goal keys steps before rest)) world := by
  rw [teardownThenArchive]
  refine Program.Safe.andThen _ (tearing.hook hooked) (fun _ _ _ failed => failed) ?_
  rintro result _ held rfl
  have winding := tearing.winding
  rw [List.filter_cons] at winding
  by_cases listed : r ∈ steps.archive
  · rw [if_pos (decide_eq_true listed)] at winding
    obtain ⟨applies, archived⟩ := winding.archive ext
    have own := winding.listed r List.mem_cons_self
    obtain ⟨found, located, -⟩ := winding.retiring.revision own
    have outcome := archiveRevision_eq located (winding.retiring.unrouted winding.quiet own)
    have after : (persist serde ext world.env (.archiveRevision r)).revisions =
        found.replace { found.hit with lifecycle := .archived } := by
      simp only [persist, outcome, persistRevision]
    have later := tearing.next archived (lifecycleOf_replace located after).2
    rw [if_pos listed]
    refine Program.Safe.andThen (Ended id before among
      (Tearing serde id bundleId goal keys steps before rest)) ?_ (fun _ _ _ failed => failed) ?_
    · exact verb_safe held applies (later.kept hooked) later
    · intro _ after held reached
      exact ⟨held, reached⟩
  · rw [if_neg (by simpa using listed)] at winding
    have later := tearing.next winding fun _ _ => rfl
    rw [if_neg listed]
    exact ⟨held, later⟩

end Tearing

/-- Every turn of a report keeps what the loop keeps. -/
theorem runHook_safe {inv : World → Prop} {call : RevisionId → RetireRun HookResult}
    (loop : List RevisionId → World → Prop) (holds : ∀ rest world, loop rest world → inv world)
    (turn : ∀ r rest world, loop (r :: rest) world → (call r).run.Safe (exec serde ext) among inv
      (Ended id before among (loop rest)) world)
    (revisions : List RevisionId) (start : loop revisions world) :
    (runHook call revisions).run.Safe (exec serde ext) among inv
      (Ended id before among (loop [])) world := by
  induction revisions generalizing world with
  | nil => exact ⟨holds _ _ start, start⟩
  | cons r rest ih =>
      rw [runHook]
      refine Program.Safe.andThen _ (turn r rest world start) (fun _ _ _ failed => failed) ?_
      intro result after _ reached
      refine Program.Safe.andThen _ (ih reached) (fun _ _ _ failed => failed) ?_
      intro rows last held ended
      exact ⟨held, ended⟩

theorem Tearing.removed (hooked : ∀ revision ∈ before.revisions, revision.deploymentId = id →
      routable revision.lifecycle = true → revision.revisionId ∈ steps.drainHook)
    (listed : ∀ revision ∈ before.revisions, revision.deploymentId = id →
      revision.revisionId ∈ steps.teardown)
    (unique : Unique before) (rest : withoutDeployment before id = goal)
    (tearing : Tearing serde id bundleId goal keys steps before [] world) :
    Kept serde id bundleId goal keys before { world with env := goal } := by
  refine ⟨⟨?_, ?_, ?_⟩, .inl rfl⟩
  · intro r archived
    obtain ⟨revision, found, lifecycle⟩ := Option.map_eq_some_iff.mp archived
    obtain ⟨member, named⟩ := revisionOf_mem found
    rw [← rest] at member
    have known := revisionOf_unique unique (List.mem_filter.mp member).1
    rw [named] at known
    refine .inr ?_
    rw [lifecycleOf, known, Option.map_some, lifecycle]
  · intro _ revision inside own live
    exact tearing.drained _ (hooked revision inside own live)
  · intro _ _ revision inside own
    rcases tearing.torn _ (listed revision inside own) with none_ | torn
    · cases none_
    · exact torn

theorem removal_of_winding (ext : Externals)
    (winding : Winding serde id bundleId goal keys [] env) :
    (Verb.removeBundle id).applies env = true ∧
      persist serde ext env (.removeBundle id) = goal := by
  have removed := winding.removes ext
  rw [attempt] at removed
  split at removed
  · next applies => exact ⟨applies, Option.some.inj removed⟩
  · cases removed

/-- The plan made once the deployment is marked leaves nothing out. -/
theorem stamping_start {begun : Environment} (steps : RetireSteps) (unique : Unique before)
    (same : begun.revisions = before.revisions) (quiet : Quiet begun id)
    (retiring : Retiring serde id bundleId goal keys begun) (planned : Planned id keys begun steps)
    (plan : PlanOf id begun steps) :
    Stamping serde id bundleId goal keys steps before steps.drainStamp ⟨begun, [], []⟩ := by
  have lifecycles : ∀ r, lifecycleOf begun r = lifecycleOf before r := by
    intro r
    rw [lifecycleOf, lifecycleOf, revisionOf, revisionOf, same]
  refine ⟨⟨retiring, quiet, planned.archives, planned.pending⟩, planned.drains, planned.live, ?_,
    fun r archived => (lifecycles r).symm.trans archived, ?_, rfl, rfl⟩
  · intro r due
    obtain ⟨revision, inside, own, ready, rfl⟩ := (plan.stamp r).mp due
    rw [same] at inside
    rw [stampedLifecycle, revisionOf_unique unique inside, Option.map_some, if_pos ⟨own, ready⟩]
  · intro r absent
    rw [lifecycles, stampedLifecycle, lifecycleOf]
    cases found : revisionOf before r with
    | none => rfl
    | some revision =>
        obtain ⟨inside, named⟩ := revisionOf_mem found
        rw [← same] at inside
        have undue : ¬ (revision.deploymentId = id ∧ revision.lifecycle = .ready) :=
          fun ready => absent ((plan.stamp r).mpr ⟨revision, inside, ready.1, ready.2, named⟩)
        rw [Option.map_some, Option.map_some, if_neg undue]

theorem Stamping.draining {after : World}
    (stamped : Stamping serde id bundleId goal keys steps before [] world)
    (sameEnv : after.env = world.env) (sameTorn : after.torn = world.torn) :
    Kept serde id bundleId goal keys before after ∧ Stamped id before after := by
  have none_ : after.torn = [] := sameTorn.trans stamped.unconfirmed.2
  have settled : Stamped id before after := by
    intro r _
    rw [sameEnv]
    exact stamped.done r List.not_mem_nil
  exact ⟨kept_stamped (fun _ _ _ _ torn => absurd none_ torn)
    (sameEnv ▸ stamped.winding.retiring) settled, settled⟩

theorem drainRows_safe {inv : World → Prop} {out : List (Except OpError HookResult)} (held : inv world)
    (joined : List.Forall₂ (Joined among world) steps.drainHook out)
    (stamped : Stamped id before world) :
    (Program.lift (drainRows steps.drainHook out) :
        RetireRun (List (RevisionId × HookResult))).run.Safe (exec serde ext) among inv
      (Ended id before among fun after => world = after ∧ ∀ r ∈ steps.drainHook, r ∈ world.drained)
      world := by
  refine Program.Safe.lift held ?_
  rcases drainRows_cases joined with ⟨all, rows, collected⟩ | ⟨⟨e, failed⟩, failing⟩
  · rw [collected]
    exact ⟨rfl, all⟩
  · rw [failed]
    exact .inr ⟨.inr failing, stamped⟩

/-- With every drain confirmed, the teardowns can begin. -/
theorem tearing_start {begun : Environment} {after : World} (plan : PlanOf id begun steps)
    (stamped : Stamping serde id bundleId goal keys steps before [] world)
    (sameEnv : after.env = world.env) (settled : Stamped id before after)
    (drained : ∀ r ∈ steps.drainHook, r ∈ after.drained) :
    Tearing serde id bundleId goal keys steps before steps.teardown after := by
  have listed : ∀ r ∈ steps.archive, r ∈ steps.teardown.filter (· ∈ steps.archive) :=
    fun r listed => List.mem_filter.mpr ⟨plan.archive r listed, decide_eq_true listed⟩
  refine ⟨⟨?_, ?_, ?_, ?_⟩, settled, fun _ listed => .inl listed, drained⟩
  · exact sameEnv ▸ stamped.winding.retiring
  · exact sameEnv ▸ stamped.winding.quiet
  · intro r member
    exact stamped.winding.listed r (of_decide_eq_true (List.mem_filter.mp member).2)
  · intro revision inside own
    rw [sameEnv] at inside
    exact (stamped.winding.pending revision inside own).imp_right (listed _)

theorem carryOut_safe {begun : Environment} (same : begun.revisions = before.revisions)
    (retiring : Retiring serde id bundleId goal keys before) (plan : PlanOf id begun steps)
    (stamping : Stamping serde id bundleId goal keys steps before steps.drainStamp world) :
    (carryOut id steps).run.Safe (exec serde ext) among (Kept serde id bundleId goal keys before)
      (Ended id before among fun world => world.env = goal) world := by
  have hooked : ∀ revision ∈ before.revisions, revision.deploymentId = id →
      routable revision.lifecycle = true → revision.revisionId ∈ steps.drainHook :=
    fun revision inside => plan.hook revision (same ▸ inside)
  have listed : ∀ revision ∈ before.revisions, revision.deploymentId = id →
      revision.revisionId ∈ steps.teardown :=
    fun revision inside => plan.teardown revision (same ▸ inside)
  rw [carryOut]
  -- the stamps
  refine Program.Safe.andThen (Ended id before among
    (Stamping serde id bundleId goal keys steps before [])) ?_ (fun _ _ _ failed => failed) ?_
  · refine Program.Safe.forM (Stamping serde id bundleId goal keys steps before) _ stamping ?_
      (fun _ _ stamping => stamping.kept) fun _ _ done => done
    intro r rest world _ stamping
    refine stamping.turn.mono (fun _ kept => kept) ?_
    intro outcome world _ ended
    cases outcome with
    | ok _ => exact ended
    | error e => exact ended
  intro _ world _ stamped
  have stamped : Stamping serde id bundleId goal keys steps before [] world := stamped
  -- the drain hooks, joined
  refine Program.Safe.andThen _ (drains_safe (fun after sameEnv sameTorn _ =>
    (stamped.draining sameEnv sameTorn).1) _) ?_ ?_
  · rintro e after _ ⟨-, -, -, out, impossible, -⟩
    cases impossible
  rintro out after held ⟨sameEnv, sameTorn, -, _, ⟨⟩, joined⟩
  rw [flatten_toChunks] at joined
  have settled := (stamped.draining sameEnv sameTorn).2
  refine Program.Safe.andThen _ (drainRows_safe held joined settled)
    (fun _ _ _ failed => failed) ?_
  rintro rows _ _ ⟨rfl, drained⟩
  -- the teardowns
  have tearing := tearing_start plan stamped sameEnv settled drained
  refine Program.Safe.andThen _ (runHook_safe (Tearing serde id bundleId goal keys steps before)
    (fun _ _ tearing => tearing.kept hooked) (fun _ _ _ tearing => tearing.turn hooked) _ tearing)
    (fun _ _ _ failed => failed) ?_
  intro report last held torn
  have torn : Tearing serde id bundleId goal keys steps before [] last := torn
  -- the removal
  obtain ⟨applies, removed⟩ := removal_of_winding ext torn.winding
  have gone := torn.removed hooked listed retiring.kept.unique retiring.rest
  refine Program.Safe.andThen (Ended id before among fun world => world.env = goal) ?_
    (fun _ _ _ failed => failed) ?_
  · exact verb_safe held applies (by rw [removed]; exact gone) removed
  · intro _ world held ended
    exact ⟨held, ended⟩

theorem runSequence_safe (retiring : Retiring serde id bundleId goal keys before) :
    (runSequence id).run.Safe (exec serde ext) among (Kept serde id bundleId goal keys before)
      (Ended id before among fun world => world.env = goal) (.start before) := by
  have start : Kept serde id bundleId goal keys before (.start before) :=
    ⟨⟨fun _ archived => .inr archived, fun torn => absurd rfl torn,
      fun gone present => absurd gone present⟩, .inr retiring⟩
  obtain ⟨applies, begun, quiet⟩ := retiring.begins ext
  obtain ⟨steps, ok, planned⟩ := begun.plan
  have plan := planOf ok
  have same : (persist serde ext before (.beginRetire id)).revisions = before.revisions :=
    persist_revisions ext before _ rfl
  have stamping := stamping_start steps retiring.kept.unique same quiet begun planned plan
  rw [runSequence]
  refine Program.Safe.andThen (fun outcome world => outcome = .ok before ∧
    world = .start before) ?_ ?_ ?_
  · exact Program.Safe.ask start (fun _ _ => start) fun _ _ => ⟨rfl, rfl⟩
  · rintro _ _ _ ⟨impossible, -⟩
    cases impossible
  rintro _ _ _ ⟨⟨⟩, rfl⟩
  refine Program.Safe.andThen (Ended id before among fun world =>
    world = .start before) ?_ (fun _ _ _ failed => failed) ?_
  · refine Program.Safe.ask start (fun _ _ => start) fun hooks considered => ?_
    cases outcome : hooks.preflight before with
    | ok _ => simp [exec, World.start, outcome, Ended, Program.Either]
    | error e =>
        have failed : Failed id before among (.start before) :=
          .inl ⟨hooks, before, considered, by rw [outcome]; rfl⟩
        simpa [exec, World.start, outcome, Ended, Program.Either] using failed
  rintro _ _ _ rfl
  refine Program.Safe.andThen (Ended id before among fun world =>
    world = ⟨persist serde ext before (.beginRetire id), [], []⟩) ?_
    (fun _ _ _ failed => failed) ?_
  · exact verb_safe start applies stamping.kept rfl
  rintro _ _ _ rfl
  refine Program.Safe.andThen (fun outcome world =>
    outcome = .ok (persist serde ext before (.beginRetire id)) ∧
      world = ⟨persist serde ext before (.beginRetire id), [], []⟩) ?_ ?_ ?_
  · exact Program.Safe.ask stamping.kept (fun _ _ => stamping.kept) fun _ _ => ⟨rfl, rfl⟩
  · rintro _ _ _ ⟨impossible, -⟩
    cases impossible
  rintro _ _ _ ⟨⟨⟩, rfl⟩
  refine Program.Safe.andThen (fun outcome world => outcome = .ok steps ∧
    world = ⟨persist serde ext before (.beginRetire id), [], []⟩) ?_ ?_ ?_
  · refine Program.Safe.lift stamping.kept ⟨?_, rfl⟩
    rw [planSteps, ok]
    rfl
  · rintro _ _ _ ⟨impossible, -⟩
    cases impossible
  rintro _ _ _ ⟨⟨⟩, rfl⟩
  exact carryOut_safe same retiring plan stamping

theorem beginRetire_gone (gone : deploymentBundle env id = none) :
    (beginRetire env id).1.isOk = false ∧ (beginRetire env id).2 = env := by
  have refused : ∃ e, checkRetireLinks env id = .error e := by
    cases links : checkRetireLinks env id with
    | error e => exact ⟨e, rfl⟩
    | ok _ =>
        obtain ⟨bundleId, found, -⟩ := checkRetireLinks_ok.mp links
        rw [gone] at found
        cases found
  obtain ⟨e, refused⟩ := refused
  rw [beginRetire, refused]
  exact ⟨rfl, rfl⟩

theorem withoutDeployment_gone (env : Environment) (id : DeploymentId) :
    deploymentBundle (withoutDeployment env id) id = none ∧
      ∀ r, lifecycleOf (withoutDeployment env id) r =
        stampedLifecycle id (withoutDeployment env id) r := by
  constructor
  · rw [deploymentBundle, withoutDeployment, Option.map_eq_none_iff, List.find?_eq_none]
    intro b member
    simpa using (List.mem_filter.mp member).2
  · intro r
    rw [lifecycleOf, stampedLifecycle]
    cases found : revisionOf (withoutDeployment env id) r with
    | none => rfl
    | some revision =>
        obtain ⟨member, -⟩ := revisionOf_mem found
        have other := of_decide_eq_true (List.mem_filter.mp member).2
        rw [Option.map_some, Option.map_some, if_neg fun own => other own.1]

/-- A run on what a retire left changes nothing. -/
theorem runSequence_gone (original : Environment) (rest : withoutDeployment original id = goal) :
    (runSequence id).run.Safe (exec serde ext) among (Kept serde id bundleId goal keys goal)
      (Ended id goal among fun world => world.env = goal) (.start goal) := by
  obtain ⟨gone, stamped⟩ := withoutDeployment_gone original id
  rw [rest] at gone stamped
  obtain ⟨refused, unchanged⟩ := beginRetire_gone gone
  have start : Kept serde id bundleId goal keys goal (.start goal) :=
    ⟨⟨fun _ archived => .inr archived, fun torn => absurd rfl torn,
      fun _ present => absurd gone present⟩, .inl rfl⟩
  have same : persist serde ext goal (.beginRetire id) = goal := by
    cases outcome : beginRetire goal id with
    | mk result after =>
        rw [outcome] at refused unchanged
        cases result with
        | ok _ => cases refused
        | error e => simp only [persist, outcome, persistMutated]
  have failed : Failed id goal among (.start goal) :=
    .inr ⟨.inl ⟨gone, rfl⟩, fun r _ => stamped r⟩
  rw [runSequence]
  refine Program.Safe.andThen (fun outcome world => outcome = .ok goal ∧
    world = .start goal) ?_ ?_ ?_
  · exact Program.Safe.ask start (fun _ _ => start) fun _ _ => ⟨rfl, rfl⟩
  · rintro _ _ _ ⟨impossible, -⟩
    cases impossible
  rintro _ _ _ ⟨⟨⟩, rfl⟩
  refine Program.Safe.andThen (Ended id goal among fun world =>
    world = .start goal) ?_ (fun _ _ _ failed => failed) ?_
  · refine Program.Safe.ask start (fun _ _ => start) fun hooks _ => ?_
    cases outcome : hooks.preflight goal with
    | ok _ => simp [exec, World.start, outcome, Ended, Program.Either]
    | error e => simpa [exec, World.start, outcome, Ended, Program.Either] using failed
  rintro _ _ _ rfl
  refine Program.Safe.andThen (Ended id goal among fun _ => False) ?_
    (fun _ _ _ failed => failed) (fun _ _ _ impossible => impossible.elim)
  refine Program.Safe.ask start (fun _ _ => ?_) fun _ _ => ?_
  · simpa [exec, World.start, same] using start
  · simpa [exec, World.start, Verb.applies, refused, same, Ended, Program.Either] using failed

/-- From any state the runs of a retire reach. -/
theorem course_safe (rest : withoutDeployment env id = goal)
    (course : Course serde id bundleId goal keys before) :
    (runSequence id).run.Safe (exec serde ext) among (Kept serde id bundleId goal keys before)
      (Ended id before among fun world => world.env = goal) (.start before) := by
  rcases course with rfl | retiring
  · exact runSequence_gone env rest
  · exact runSequence_safe retiring

theorem course_runs (rest : withoutDeployment env id = goal)
    (course : Course serde id bundleId goal keys before) (runs : List (List Hooks)) :
    Course serde id bundleId goal keys ((retireRuns serde ext id).run before runs) := by
  refine (retireRuns serde ext id).run_invariant _ ?_ before runs
    ((retireRuns serde ext id).admits_of_allowed (fun _ _ => trivial) before runs) course
  intro state schedule _ course
  have safe : (runSequence id).run.Safe (exec serde ext) (fun _ => True)
      (Kept serde id bundleId goal keys state) _ (.start state) := course_safe rest course
  exact (safe.cut schedule fun _ _ => trivial).2

def Hooks.Succeed (hooks : Hooks) : Prop :=
  ¬ hooks.Fails ∧ ∀ env, (hooks.preflight env).isOk = true

/-- Whatever runs of a retire came before, each of them cut off or ended by a
hook's error: a run archives a revision only once it is torn down, and removes
the deployment only once all its revisions are, every draining one drained
before. Where a hook fails, each revision not torn down is as the drain stamps
left it. A run without a failing hook leaves the environment as it was before
the first, less the deployment. -/
theorem retire_survives_hooks (serde : SerdeJson) (ext : Externals) (envId : EnvId)
    (name : String) (hostConfig : EnvironmentHostConfig) (revocation : RevocationConfig)
    (retention : RetentionPolicy) (health : HealthStatus) (verbs : List Verb)
    (admits : (engine serde ext).Admits
      (freshEnvironment envId name hostConfig revocation retention health) verbs)
    (env : Environment)
    (reached : env = (engine serde ext).run
      (freshEnvironment envId name hostConfig revocation retention health) verbs)
    (id : DeploymentId) (begins : (beginRetire env id).1.isOk = true)
    (runs : List (List Hooks)) :
    let before := (retireRuns serde ext id).run env runs
    let run := (runSequence id).run
    (∀ schedule, Sound id before (run.cut (exec serde ext) (.start before) schedule)) ∧
      (∀ schedule e, (∀ hooks ∈ schedule, ∀ env, (hooks.preflight env).isOk = true) →
        run.outcome (exec serde ext) (.start before) schedule = some (.error e) →
          Stamped id before (run.cut (exec serde ext) (.start before) schedule)) ∧
      ∀ hooks : Nat → Hooks, (∀ n, (hooks n).Succeed) →
        (run.finish (exec serde ext) (.start before) hooks).2.env = withoutDeployment env id ∧
          (deploymentBundle before id ≠ none →
            (run.finish (exec serde ext) (.start before) hooks).1.isOk = true) := by
  intro before run
  obtain ⟨bundleId, retiring⟩ := retiring_of_reached serde ext envId name hostConfig revocation
    retention health verbs admits env reached id begins
  have course : Course serde id bundleId _ _ before := course_runs rfl (.inr retiring) runs
  refine ⟨fun schedule => ?_, fun schedule e accepted failed => ?_, fun hooks succeed => ?_⟩
  · have safe : run.Safe (exec serde ext) (fun _ => True) _ _ _ := course_safe rfl course
    exact (safe.cut schedule fun _ _ => trivial).1
  · have safe : run.Safe (exec serde ext)
        (fun hooks => ∀ env, (hooks.preflight env).isOk = true) _ _ _ := course_safe rfl course
    rcases safe.outcome schedule accepted failed with ⟨hooks, env, accepts, refused⟩ | ⟨-, stamped⟩
    · rw [accepts env] at refused
      cases refused
    · exact stamped
  · have safe : run.Safe (exec serde ext) Hooks.Succeed _ _ _ := course_safe rfl course
    have ended := safe.finish hooks succeed
    cases outcome : (run.finish (exec serde ext) (.start before) hooks).1 with
    | ok report =>
        rw [outcome] at ended
        exact ⟨ended, fun _ => rfl⟩
    | error e =>
        rw [outcome] at ended
        have failed : Failed id before Hooks.Succeed
            (run.finish (exec serde ext) (.start before) hooks).2 := ended
        rcases failed with ⟨hooks, env, succeeds, refused⟩ | ⟨⟨gone, same⟩ | ⟨hooks, succeeds, fails⟩, -⟩
        · rw [succeeds.2 env] at refused
          cases refused
        · refine ⟨?_, fun present => absurd gone present⟩
          rcases course with removed | retiring
          · exact same.trans removed
          · rw [show deploymentBundle before id = _ from retiring.bundle] at gone
            cases gone
        · exact absurd fails succeeds.1

def allDone : Hooks := ⟨fun _ => .ok (), fun _ => .ok .done, fun _ => .ok .done⟩

def stuckTeardown : Hooks := { allDone with teardown := fun _ => .error (.conflict "timed out") }

theorem allDone_succeed : allDone.Succeed := by
  refine ⟨?_, fun _ => rfl⟩
  rintro ⟨r, failed | failed⟩ <;> cases failed

/-- A routed deployment whose first retire stops at a teardown. -/
theorem retire_survives_stuckTeardown :
    ∃ env, env = (engine firstSplitJson noExternals).run localFresh (routedRun.take 4) ∧
      let before := (retireRuns firstSplitJson noExternals ⟨1⟩).run env
        [List.replicate 9 stuckTeardown]
      env.trafficSplits = [firstSplit] ∧ before.trafficSplits = [] ∧
        before.revisions.map (·.lifecycle) = [.draining] ∧
        ((runSequence ⟨1⟩).run.finish (exec firstSplitJson noExternals) (.start before)
          fun _ => allDone).2.env = withoutDeployment env ⟨1⟩ := by
  refine ⟨_, rfl, by decide, by decide, by decide, ?_⟩
  have admits : (engine firstSplitJson noExternals).Admits localFresh (routedRun.take 4) := by
    simp [System.Admits, engine, routedRun, Verb.mintsFresh, localFresh, freshEnvironment]
  have survives := retire_survives_hooks firstSplitJson noExternals _ _ _ _ _ _ (routedRun.take 4)
    admits _ rfl ⟨1⟩ (by decide) [List.replicate 9 stuckTeardown]
  exact (survives.2.2 (fun _ => allDone) fun _ => allDone_succeed).1

/-- That deployment with its split listed twice, which validation admits and no verb
writes. -/
def doublyRouted : Environment :=
  { (engine firstSplitJson noExternals).run localFresh (routedRun.take 4) with
    trafficSplits := [firstSplit, firstSplit] }

/-- A retire cuts one split of the deployment: where there is a second one the revision is
torn down, its archive is refused, and the deployment stays although every hook was done. -/
theorem second_split_stops_the_retire :
    let ended := (runSequence ⟨1⟩).run.finish (exec firstSplitJson noExternals)
      (.start doublyRouted) fun _ => allDone
    doublyRouted.validate noExternals = .ok () ∧ (beginRetire doublyRouted ⟨1⟩).1.isOk = true ∧
      ended.1.isOk = false ∧ ended.2.torn = [⟨7⟩] ∧
      lifecycleOf ended.2.env ⟨7⟩ = some .draining ∧
      deploymentBundle ended.2.env ⟨1⟩ ≠ none ∧ ended.2.env ≠ withoutDeployment doublyRouted ⟨1⟩ := by
  decide

end GreenticDeployer.Retire
