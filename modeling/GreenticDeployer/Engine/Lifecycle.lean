import GreenticDeployer.Lib.Runs
import GreenticDeployer.Engine.Environments
import GreenticDeployer.Engine.Bundles

/-!
# Lifecycle safety

What one walk of a revision through its chain can do to the stored environment,
and from it what holds over every run of stage, warm, drain and archive.
-/

set_option maxHeartbeats 200000

namespace GreenticDeployer.Engine

open Spec Lib

theorem walkEdges_not_refused {chain : List Edge}
    (legal : ∀ edge ∈ chain, isValidTransition edge.1 edge.2 = true)
    (start : RevisionLifecycle) (advanced : Bool) :
    (walkEdges chain start advanced).1 = none := by
  induction chain generalizing start advanced with
  | nil => rfl
  | cons edge rest ih =>
      have valid := legal edge (List.mem_cons_self ..)
      have later := ih fun e member => legal e (List.mem_cons_of_mem _ member)
      simp only [walkEdges, valid, if_true]
      split
      · exact later ..
      · exact later ..

/-- What a walk that is persisted has done. -/
structure Walked (env : Environment) (id : RevisionId) (chain : List Edge)
    (onFinal : Revision → Revision) (prune : Bool)
    (gate : Environment → Revision → Except HealthGateFailure Unit)
    (found : Located Revision) (reached : RevisionLifecycle) (advanced : Bool)
    (result : Except RevisionLifecycleError RevisionTransition) (after : Environment) : Prop where
  located : locate (fun r => r.revisionId = id) env.revisions = some found
  final : chain.getLast?.map Prod.snd = some reached
  edges : walkEdges chain found.hit.lifecycle false = (none, reached, advanced)
  unrouted : prune = true → activeRefs env id = []
  settled :
    (∃ failure, advanced = true ∧ isValidTransition reached .failed = true ∧
      gate { env with revisions := found.replace { found.hit with lifecycle := reached } }
        { found.hit with lifecycle := reached } = .error failure ∧
      result = .error (.healthGateFailed id failure.failedChecks failure.message) ∧
      after = { env with revisions := found.replace { found.hit with lifecycle := .failed } }) ∨
    (result = .ok ⟨onFinal { found.hit with lifecycle := reached }, found.hit.lifecycle⟩ ∧
      after = { env with
        revisions := found.replace (onFinal { found.hit with lifecycle := reached })
        bundles := if prune then
            untrack (onFinal { found.hit with lifecycle := reached }).deploymentId id env.bundles
          else env.bundles })

theorem walkRevisionChain_cases {env : Environment} {id : RevisionId} {chain : List Edge}
    {expected : Option RevisionLifecycle} {onFinal : Revision → Revision} {prune : Bool}
    {gate : Environment → Revision → Except HealthGateFailure Unit}
    {result : Except RevisionLifecycleError RevisionTransition} {after : Environment}
    (walk : walkRevisionChain env id chain expected onFinal prune gate = (result, after)) :
    (∃ e, result = .error e ∧ e.envMutated = false) ∨
      ∃ found reached advanced,
        Walked env id chain onFinal prune gate found reached advanced result after := by
  simp only [walkRevisionChain] at walk
  split at walk
  · cases walk; exact .inl ⟨_, rfl, rfl⟩
  rename_i last finalState lastEdge
  split at walk
  · cases walk; exact .inl ⟨_, rfl, rfl⟩
  rename_i found located
  split at walk
  · cases walk; exact .inl ⟨_, rfl, rfl⟩
  split at walk
  · cases walk; exact .inl ⟨_, rfl, rfl⟩
  rename_i notRefused
  split at walk
  · cases walk; exact .inl ⟨_, rfl, rfl⟩
  rename_i atFinal
  split at walk
  · cases walk; exact .inl ⟨_, rfl, rfl⟩
  rename_i unrouted
  have edges : walkEdges chain found.hit.lifecycle false =
      (none, finalState, (walkEdges chain found.hit.lifecycle false).2.2) := by
    rw [← not_not.mp atFinal, ← notRefused]
  rw [not_not.mp atFinal] at walk
  have shape : prune = true → activeRefs env id = [] := by
    intro pruned
    by_contra routed
    exact unrouted ⟨pruned, routed⟩
  split at walk
  · rename_i failure gated
    split at walk
    · rename_i demotable
      cases walk
      refine .inr ⟨found, finalState, _, located, by simp [lastEdge], edges, shape, .inl ?_⟩
      by_cases advanced : (walkEdges chain found.hit.lifecycle false).2.2 = true
      · refine ⟨failure, advanced, demotable, ?_, rfl, rfl⟩
        simpa [advanced] using gated
      · simp [advanced] at gated
    · cases walk; exact .inl ⟨_, rfl, rfl⟩
  · cases walk
    exact .inr ⟨found, finalState, _, located, by simp [lastEdge], edges, shape, .inr ⟨rfl, rfl⟩⟩

/-- A chain of legal edges, whose end may fail if the gate can, never trips the
walk's two internal errors. -/
theorem walkRevisionChain_internal {env : Environment} {id : RevisionId} {chain : List Edge}
    {expected : Option RevisionLifecycle} {onFinal : Revision → Revision} {prune : Bool}
    {gate : Environment → Revision → Except HealthGateFailure Unit} (last : Edge)
    (nonempty : chain.getLast? = some last)
    (legal : ∀ edge ∈ chain, isValidTransition edge.1 edge.2 = true)
    (demotable : isValidTransition last.2 .failed = true ∨ ∀ e r, gate e r = .ok ()) :
    (walkRevisionChain env id chain expected onFinal prune gate).1 ≠ .error .emptyChain ∧
      ∀ source target, (walkRevisionChain env id chain expected onFinal prune gate).1 ≠
        .error (.invalidTransition source target) := by
  simp only [walkRevisionChain, nonempty]
  split
  · simp
  rename_i found located
  split
  · simp
  have notRefused := walkEdges_not_refused legal found.hit.lifecycle false
  split
  · rename_i refused
    rw [notRefused] at refused
    cases refused
  split
  · simp
  rename_i atFinal
  split
  · simp
  split
  · rename_i failure gated
    rcases demotable with valid | open_
    · simp [not_not.mp atFinal, valid]
    · split at gated
      · simp [open_] at gated
      · cases gated
  · simp

def routable : RevisionLifecycle → Bool
  | .ready | .draining => true
  | _ => false

/-- The pairs of transitions that a verb stores as one change. -/
def doubleSteps : List (RevisionLifecycle × RevisionLifecycle × RevisionLifecycle) :=
  [(.staged, .warming, .ready), (.draining, .inactive, .archived)]

/-- How far one stored change moves a lifecycle: not at all, along one legal
transition, or along both legal transitions of a double step. -/
def Hop (before after : RevisionLifecycle) : Prop :=
  before = after ∨ isValidTransition before after = true ∨
    ∃ step ∈ doubleSteps, step.1 = before ∧ step.2.2 = after ∧
      isValidTransition before step.2.1 = true ∧ isValidTransition step.2.1 after = true

instance (before after : RevisionLifecycle) : Decidable (Hop before after) :=
  inferInstanceAs (Decidable (_ ∨ _))

theorem Hop.of_archived {after : RevisionLifecycle} (hop : Hop .archived after) :
    after = .archived := by
  cases after <;> revert hop <;> decide

/-- The change one lifecycle verb makes to the stored environment: none, a
staged revision more, or one revision moved by a hop. A revision
that could be routed stays so, or no split names it. -/
inductive RevisionEdit (id : RevisionId) (env : Environment) : Environment → Prop
  | keep : RevisionEdit id env env
  | stage (deployment : BundleDeployment) (revision : Revision)
      (named : revision.revisionId = id)
      (fresh : ∀ r ∈ env.revisions, r.revisionId ≠ id)
      (deployed : env.bundles.find? (fun b => b.deploymentId = revision.deploymentId) =
        some deployment)
      (bundle : revision.bundleId = deployment.bundleId)
      (staged : revision.lifecycle = .staged) :
      RevisionEdit id env { env with revisions := env.revisions ++ [revision] }
  | advance (found : Located Revision) (after : Revision) (bundles : List BundleDeployment)
      (located : locate (fun r => r.revisionId = id) env.revisions = some found)
      (sameId : after.revisionId = found.hit.revisionId)
      (sameDeployment : after.deploymentId = found.hit.deploymentId)
      (sameBundle : after.bundleId = found.hit.bundleId)
      (hop : Hop found.hit.lifecycle after.lifecycle)
      (routing : routable found.hit.lifecycle = true →
        routable after.lifecycle = true ∨ activeRefs env id = [])
      (tracking : bundles = env.bundles ∨
        bundles = untrack found.hit.deploymentId id env.bundles) :
      RevisionEdit id env { env with revisions := found.replace after, bundles := bundles }

theorem persist_stage (env : Environment) (payload : StageRevisionPayload) (now : DateTime) :
    RevisionEdit payload.revisionId env (persistRevision env (stageRevision env payload now)) := by
  simp only [stageRevision]
  split
  · exact .keep
  rename_i absent
  split
  · exact .keep
  rename_i deployment deployed
  refine .stage deployment _ rfl ?_ deployed rfl rfl
  intro r member same
  exact absent (List.any_eq_true.mpr ⟨r, member, by simpa using same⟩)

theorem persist_walk {env : Environment} {id : RevisionId} {chain : List Edge}
    {expected : Option RevisionLifecycle} {onFinal : Revision → Revision} {prune : Bool}
    {gate : Environment → Revision → Except HealthGateFailure Unit}
    (identity : ∀ r, (onFinal r).revisionId = r.revisionId ∧
      (onFinal r).deploymentId = r.deploymentId ∧ (onFinal r).bundleId = r.bundleId ∧
      (onFinal r).lifecycle = r.lifecycle)
    (hops : ∀ start reached advanced, chain.getLast?.map Prod.snd = some reached →
      walkEdges chain start false = (none, reached, advanced) →
      Hop start reached ∧ (advanced = true → isValidTransition reached .failed = true →
        Hop start .failed))
    (ending : ∀ reached, chain.getLast?.map Prod.snd = some reached →
      routable reached = true ∨ prune = true)
    (gated : ∀ start reached, routable start = true →
      walkEdges chain start false = (none, reached, true) → ∀ e r, gate e r = .ok ()) :
    RevisionEdit id env
      (persistRevision env (walkRevisionChain env id chain expected onFinal prune gate)) := by
  rcases outcome : walkRevisionChain env id chain expected onFinal prune gate with
    ⟨result, after⟩
  rcases walkRevisionChain_cases outcome with ⟨e, rfl, discarded⟩ | ⟨found, reached, advanced, w⟩
  · simp only [persistRevision, discarded, Bool.false_eq_true, if_false]
    exact .keep
  obtain ⟨hop, demotion⟩ := hops _ _ _ w.final w.edges
  rcases w.settled with ⟨failure, rfl, valid, failed, rfl, rfl⟩ | ⟨rfl, rfl⟩
  · refine .advance found _ _ w.located rfl rfl rfl (demotion rfl valid) ?_ (.inl rfl)
    intro live
    simp [gated _ _ live w.edges] at failed
  · obtain ⟨sameId, sameDeployment, sameBundle, sameLifecycle⟩ :=
      identity { found.hit with lifecycle := reached }
    refine .advance found _ _ w.located sameId sameDeployment sameBundle ?_ ?_ ?_
    · rw [sameLifecycle]
      exact hop
    · intro _
      rcases ending reached w.final with live | pruned
      · exact .inl (by rw [sameLifecycle]; exact live)
      · exact .inr (w.unrouted pruned)
    · cases prune with
      | false => exact .inl rfl
      | true => exact .inr (by rw [if_pos rfl, sameDeployment])

theorem persist_warm (env : Environment) (payload : WarmRevisionPayload) (now : DateTime) :
    RevisionEdit payload.revisionId env (persistRevision env (warmRevision env payload now)) := by
  apply persist_walk
  · exact fun r => ⟨rfl, rfl, rfl, rfl⟩
  · intro start reached advanced last edges
    cases start <;> cases last <;> cases edges <;> decide
  · intro reached last
    simp only [warmChain, List.getLast?_cons_cons, List.getLast?_singleton, Option.map_some,
      Option.some.injEq] at last
    exact .inl (by rw [← last]; rfl)
  · -- The chain starts at `staged` or `warming`, neither of them routable.
    intro start reached live edges
    cases start <;> simp_all [routable, walkEdges, warmChain]

theorem persist_drain (env : Environment) (id : RevisionId) :
    RevisionEdit id env (persistRevision env (drainRevision env id)) := by
  apply persist_walk
  · exact fun r => ⟨rfl, rfl, rfl, rfl⟩
  · intro start reached advanced last edges
    cases start <;> cases last <;> cases edges <;> decide
  · intro reached last
    simp only [drainChain, List.getLast?_singleton, Option.map_some, Option.some.injEq] at last
    exact .inl (by rw [← last]; rfl)
  · exact fun _ _ _ _ _ _ => rfl

theorem persist_archive (env : Environment) (id : RevisionId) :
    RevisionEdit id env (persistRevision env (archiveRevision env id)) := by
  apply persist_walk
  · exact fun r => ⟨rfl, rfl, rfl, rfl⟩
  · intro start reached advanced last edges
    cases start <;> cases last <;> cases edges <;> decide
  · exact fun _ _ => .inr rfl
  · exact fun _ _ _ _ _ _ => rfl

inductive LifecycleVerb where
  | stage (payload : StageRevisionPayload) (now : DateTime)
  | warm (payload : WarmRevisionPayload) (now : DateTime)
  | drain (revisionId : RevisionId)
  | archive (revisionId : RevisionId)

def LifecycleVerb.target : LifecycleVerb → RevisionId
  | .stage payload _ => payload.revisionId
  | .warm payload _ => payload.revisionId
  | .drain id => id
  | .archive id => id

def persistLifecycle (env : Environment) : LifecycleVerb → Environment
  | .stage payload now => persistRevision env (stageRevision env payload now)
  | .warm payload now => persistRevision env (warmRevision env payload now)
  | .drain id => persistRevision env (drainRevision env id)
  | .archive id => persistRevision env (archiveRevision env id)

def lifecycles : System Environment LifecycleVerb := ⟨persistLifecycle, fun _ _ => True⟩

theorem persistLifecycle_edit (env : Environment) (verb : LifecycleVerb) :
    RevisionEdit verb.target env (persistLifecycle env verb) := by
  cases verb with
  | stage payload now => exact persist_stage env payload now
  | warm payload now => exact persist_warm env payload now
  | drain id => exact persist_drain env id
  | archive id => exact persist_archive env id

def revisionOf (env : Environment) (id : RevisionId) : Option Revision :=
  env.revisions.find? fun r => r.revisionId = id

theorem revisionOf_located {env : Environment} {id : RevisionId} {found : Located Revision}
    (located : locate (fun r => r.revisionId = id) env.revisions = some found) :
    revisionOf env id = some found.hit := by
  rw [revisionOf, find?_eq_locate, located]
  rfl

theorem revisionOf_revisionId {env : Environment} {id : RevisionId} {revision : Revision}
    (there : revisionOf env id = some revision) : revision.revisionId = id := by
  have found := List.find?_some there
  simpa using found

def lifecycleOf (env : Environment) (id : RevisionId) : Option RevisionLifecycle :=
  (revisionOf env id).map (·.lifecycle)

/-- How the stored lifecycle of a revision moves across one verb. -/
def LifecycleStep (id : RevisionId) (before after : Environment) : Prop :=
  match lifecycleOf before id with
  | none => lifecycleOf after id = none ∨ lifecycleOf after id = some .staged
  | some lifecycle => ∃ next, lifecycleOf after id = some next ∧ Hop lifecycle next ∧
      (lifecycle = .archived → next = .archived)

/-- A verb touches one revision and the tracking list of that revision's own
deployment, and nothing else. -/
structure OnlyTarget (id : RevisionId) (before after : Environment) : Prop where
  rest : after = { before with revisions := after.revisions, bundles := after.bundles }
  revisions : after.revisions = before.revisions ∨
    (∃ revision, revision.revisionId = id ∧ after.revisions = before.revisions ++ [revision]) ∨
    ∃ found revision, locate (fun r => r.revisionId = id) before.revisions = some found ∧
      revision.revisionId = id ∧ after.revisions = found.replace revision
  bundles : List.Forall₂ (fun old new =>
      new = { old with currentRevisions := new.currentRevisions } ∧
        ((revisionOf before id).map (·.deploymentId) ≠ some old.deploymentId → new = old))
    before.bundles after.bundles

theorem forall₂_same_bundles (id : RevisionId) (env : Environment)
    (bundles : List BundleDeployment) :
    List.Forall₂ (fun old new : BundleDeployment =>
      new = { old with currentRevisions := new.currentRevisions } ∧
        ((revisionOf env id).map (·.deploymentId) ≠ some old.deploymentId → new = old))
      bundles bundles :=
  List.forall₂_same.mpr fun _ _ => ⟨rfl, fun _ => rfl⟩

theorem RevisionEdit.onlyTarget {id : RevisionId} {before after : Environment}
    (edit : RevisionEdit id before after) : OnlyTarget id before after := by
  cases edit with
  | keep => exact ⟨rfl, .inl rfl, forall₂_same_bundles id before _⟩
  | stage deployment revision named fresh deployed bundle staged =>
      exact ⟨rfl, .inr (.inl ⟨revision, named, rfl⟩), forall₂_same_bundles id before _⟩
  | advance found new bundles located sameId sameDeployment sameBundle hop routing tracking =>
      have hitId : found.hit.revisionId = id := by simpa using (locate_eq_some located).2.1
      refine ⟨rfl, .inr (.inr ⟨found, new, located, sameId.trans hitId, rfl⟩), ?_⟩
      rcases tracking with rfl | rfl
      · exact forall₂_same_bundles id before _
      · have target := revisionOf_located located
        simp only [untrack, target, Option.map_some]
        rw [List.forall₂_map_right_iff]
        refine List.forall₂_same.mpr ?_
        intro bundle _
        split
        · rename_i own
          exact ⟨rfl, fun other => absurd (congrArg some own.symm) other⟩
        · exact ⟨rfl, fun _ => rfl⟩

theorem RevisionEdit.lifecycleStep {id : RevisionId} {before after : Environment}
    (edit : RevisionEdit id before after) (other : RevisionId) :
    LifecycleStep other before after := by
  have unchanged : ∀ env : Environment, lifecycleOf env other = lifecycleOf before other →
      LifecycleStep other before env := by
    intro env same
    unfold LifecycleStep
    rw [same]
    cases lifecycleOf before other with
    | none => exact .inl rfl
    | some lifecycle => exact ⟨lifecycle, rfl, .inl rfl, fun h => h⟩
  cases edit with
  | keep => exact unchanged before rfl
  | stage deployment revision named fresh deployed bundle staged =>
      by_cases same : other = id
      · subst same
        have absent : lifecycleOf before other = none := by
          simpa [lifecycleOf, revisionOf] using fresh
        have present : revisionOf { before with
            revisions := before.revisions ++ [revision] } other = some revision := by
          have none_ : before.revisions.find? (fun r => r.revisionId = other) = none := by
            simpa using fresh
          simp [revisionOf, List.find?_append, none_, named]
        unfold LifecycleStep
        rw [absent]
        exact .inr (by simp [lifecycleOf, present, staged])
      · apply unchanged
        have differs : revision.revisionId ≠ other := fun h => same (h.symm.trans named)
        simp [lifecycleOf, revisionOf, List.find?_append, differs]
  | advance found new bundles located sameId sameDeployment sameBundle hop routing tracking =>
      have hitId : found.hit.revisionId = id := by simpa using (locate_eq_some located).2.1
      by_cases same : other = id
      · subst same
        have old : lifecycleOf before other = some found.hit.lifecycle := by
          rw [lifecycleOf, revisionOf_located located]
          rfl
        have now_ : lifecycleOf { before with
            revisions := found.replace new, bundles := bundles } other =
            some new.lifecycle := by
          simp only [lifecycleOf, revisionOf]
          rw [Located.find?_replace located (by simpa using sameId.trans hitId)]
          rfl
        unfold LifecycleStep
        rw [old]
        refine ⟨new.lifecycle, now_, hop, ?_⟩
        intro archived
        exact Hop.of_archived (archived ▸ hop)
      · apply unchanged
        simp only [lifecycleOf, revisionOf]
        rw [Located.find?_replace_of_ne located]
        · simpa [hitId] using fun h => same h.symm
        · simpa [sameId, hitId] using fun h => same h.symm

/-- A gate outcome computed against a lifecycle that has since moved has no
effect: any other outcome gives the same result and the same environment, and
the stored lifecycle stays. -/
theorem warm_stale (env : Environment) (payload : WarmRevisionPayload) (now : DateTime)
    (stale : lifecycleOf env payload.revisionId ≠ some payload.expectedLifecycle) :
    (∀ gate, warmRevision env { payload with healthGate := gate } now =
      warmRevision env payload now) ∧
      lifecycleOf (persistRevision env (warmRevision env payload now)) payload.revisionId =
        lifecycleOf env payload.revisionId := by
  cases located : locate (fun r => r.revisionId = payload.revisionId) env.revisions with
  | none =>
      simp [warmRevision, walkRevisionChain, warmChain, located, persistRevision,
        RevisionLifecycleError.envMutated]
  | some found =>
      have current : lifecycleOf env payload.revisionId = some found.hit.lifecycle := by
        rw [lifecycleOf, revisionOf_located located]
        rfl
      have moved : found.hit.lifecycle ≠ payload.expectedLifecycle := fun h =>
        stale (by rw [current, h])
      have last : warmChain.getLast? = some (.warming, .ready) := rfl
      by_cases ready : found.hit.lifecycle = .ready
      · -- The chain does not advance, so the gate is not consulted.
        have resting : walkEdges warmChain found.hit.lifecycle false = (none, .ready, false) := by
          rw [ready]
          decide
        have hitId : found.hit.revisionId = payload.revisionId := by
          simpa using (locate_eq_some located).2.1
        have accepted : missesStart (some payload.expectedLifecycle) found.hit.lifecycle .ready =
            none := by simp [missesStart, ready]
        refine ⟨fun gate => ?_, ?_⟩
        · simp [warmRevision, walkRevisionChain, last, located, resting, accepted]
        · rw [current, ready]
          simp only [warmRevision, walkRevisionChain, last, located, resting, accepted,
            lifecycleOf, revisionOf]
          simp only [ne_eq, not_true_eq_false, if_false, Bool.false_eq_true, false_and,
            persistRevision]
          rw [Located.find?_replace located (by simpa using hitId)]
          rfl
      · have refused : missesStart (some payload.expectedLifecycle) found.hit.lifecycle .ready =
            some payload.expectedLifecycle := by simp [missesStart, ready, moved]
        simp [warmRevision, walkRevisionChain, last, located, refused, persistRevision,
          RevisionLifecycleError.envMutated]

def NotInternal {τ : Type} (result : Except RevisionLifecycleError τ) : Prop :=
  result ≠ .error .emptyChain ∧
    ∀ source target, result ≠ .error (.invalidTransition source target)

theorem warm_not_internal (env : Environment) (payload : WarmRevisionPayload) (now : DateTime) :
    NotInternal (warmRevision env payload now).1 :=
  walkRevisionChain_internal (.warming, .ready) rfl (by decide) (.inl rfl)

theorem drain_not_internal (env : Environment) (id : RevisionId) :
    NotInternal (drainRevision env id).1 :=
  walkRevisionChain_internal (.ready, .draining) rfl (by decide)
    (.inr fun _ _ => rfl)

theorem archive_not_internal (env : Environment) (id : RevisionId) :
    NotInternal (archiveRevision env id).1 :=
  walkRevisionChain_internal (.inactive, .archived) rfl (by decide)
    (.inr fun _ _ => rfl)

/-- Lifecycle safety of every run, from any environment: stored lifecycles move
by hops and stay once archived; in each state reached, no transition verb gives
an internal error, a stale gate outcome has no effect, and each verb changes
only its target. -/
theorem lifecycle_safety (env : Environment) (verbs : List LifecycleVerb) :
    ((lifecycles.states env verbs).IsChain fun before after =>
      ∀ id, LifecycleStep id before after) ∧
    ∀ state ∈ lifecycles.states env verbs,
      (∀ payload now, NotInternal (warmRevision state payload now).1) ∧
      (∀ id, NotInternal (drainRevision state id).1) ∧
      (∀ id, NotInternal (archiveRevision state id).1) ∧
      (∀ payload now, lifecycleOf state payload.revisionId ≠ some payload.expectedLifecycle →
        (∀ gate, warmRevision state { payload with healthGate := gate } now =
          warmRevision state payload now) ∧
        lifecycleOf (persistRevision state (warmRevision state payload now))
          payload.revisionId = lifecycleOf state payload.revisionId) ∧
      (∀ verb, OnlyTarget verb.target state (persistLifecycle state verb)) := by
  constructor
  · refine lifecycles.chain (fun _ => True) _ (fun _ _ _ _ => trivial) ?_ env verbs ?_ trivial
    · intro state verb _ _ id
      exact (persistLifecycle_edit state verb).lifecycleStep id
    · exact lifecycles.admits_of_allowed (fun _ _ => trivial) env verbs
  · intro state _
    exact ⟨warm_not_internal state, drain_not_internal state, archive_not_internal state,
      warm_stale state, fun verb => (persistLifecycle_edit state verb).onlyTarget⟩

def localFresh : Environment :=
  freshEnvironment ⟨"local"⟩ "local" ⟨⟨"local"⟩, none, none, none, none, none, none⟩
    ⟨false, none⟩ ⟨none, none⟩ ⟨.unknown, none, none⟩

def demoBundle : AddBundlePayload :=
  ⟨⟨"demo"⟩, none, ⟨"local-dev"⟩, [⟨⟨"greentic"⟩, 10000⟩], none, none, BTreeMap.empty⟩

def demoRevision : StageRevisionPayload :=
  ⟨⟨7⟩, ⟨1⟩, "sha256:00", none, [], "pack-list.lock", [], "sha256:00", "rev.sig", 0, none⟩

def deployedOnly : Environment := (addBundle localFresh demoBundle ⟨1⟩ 0).2

/-- Stage a revision of that deployment, then warm it with a green gate. -/
def stageThenWarm : List LifecycleVerb :=
  [.stage demoRevision 1, .warm ⟨⟨7⟩, .ok (), .staged⟩ 2]

/-- Stored lifecycles are not literally a path of the matrix, repeats aside: a
warm stores `ready` right after `staged`. -/
theorem stored_lifecycles_skip_warming :
    ((lifecycles.states deployedOnly stageThenWarm).filterMap (lifecycleOf · ⟨7⟩) =
        [.staged, .ready]) ∧
      ¬ ((lifecycles.states deployedOnly stageThenWarm).filterMap (lifecycleOf · ⟨7⟩)).IsChain
        fun before after => before = after ∨ isValidTransition before after = true := by
  decide

end GreenticDeployer.Engine
