import GreenticDeployer.Engine.Sequences

/-!
# Retiring a deployment

A retire marks the deployment and takes its split, drains and archives its
revisions by a plan made once, and removes what is left. It may be cut off
anywhere and started again from its first step.
-/

set_option maxHeartbeats 200000

namespace GreenticDeployer.Engine

open Spec Lib

variable {serde : SerdeJson}

/-- Whether a verb of a retire answers with success. -/
def Verb.applies (env : Environment) : Verb → Bool
  | .beginRetire id => (Engine.beginRetire env id).1.isOk
  | .drainRevision id => (Engine.drainRevision env id).1.isOk
  | .archiveRevision id => (Engine.archiveRevision env id).1.isOk
  | .removeBundle id => (Engine.removeBundle env id).1.isOk
  | _ => false

/-- One verb after another, up to the first that is refused. -/
def attempt (serde : SerdeJson) (ext : Externals) : Environment → List Verb → Option Environment
  | env, [] => some env
  | env, verb :: rest =>
    if verb.applies env then attempt serde ext (persist serde ext env verb) rest else none

/-- The engine calls of a plan, in the order the sequence makes them. -/
def RetireSteps.verbs (steps : RetireSteps) (id : DeploymentId) : List Verb :=
  steps.drainStamp.map .drainRevision ++ steps.archive.map .archiveRevision ++ [.removeBundle id]

/-- The whole retire: begin, plan from the stored state, carry the plan out. -/
def retire (serde : SerdeJson) (ext : Externals) (env : Environment) (id : DeploymentId) :
    Option Environment :=
  match attempt serde ext env [.beginRetire id] with
  | none => none
  | some begun =>
    match retireSteps begun id with
    | .error _ => none
    | .ok steps => attempt serde ext begun (steps.verbs id)

def withoutDeployment (env : Environment) (id : DeploymentId) : Environment :=
  { env with
    bundles := env.bundles.filter fun b => b.deploymentId ≠ id
    revisions := env.revisions.filter fun r => r.deploymentId ≠ id
    trafficSplits := env.trafficSplits.filter fun s => s.deploymentId ≠ id }

theorem attempt_append (ext : Externals) (env : Environment) (left right : List Verb) :
    attempt serde ext env (left ++ right) =
      (attempt serde ext env left).bind fun after => attempt serde ext after right := by
  induction left generalizing env with
  | nil => rfl
  | cons verb rest ih =>
      simp only [List.cons_append, attempt]
      split
      · exact ih _
      · rfl

theorem attempt_cons {ext : Externals} {env : Environment} {verb : Verb} (rest : List Verb)
    (applies : verb.applies env = true) :
    attempt serde ext env (verb :: rest) = attempt serde ext (persist serde ext env verb) rest := by
  rw [attempt, if_pos applies]

structure WellKept (serde : SerdeJson) (env : Environment) : Prop where
  routing : Routing serde env
  unique : Unique env
  distinct : (deploymentIds env).Nodup

theorem Verb.minted_fresh {env : Environment} {verb : Verb} {id : DeploymentId}
    (minted : verb.minted = some id) (fresh : verb.mintsFresh env = true) :
    id ∉ deploymentIds env := by
  cases verb with
  | addBundle payload chosen now policyRef =>
      cases minted
      intro member
      obtain ⟨b, inside, same⟩ := List.mem_map.mp member
      have other := List.all_eq_true.mp fresh b inside
      exact of_decide_eq_true other same
  | _ => cases minted

theorem WellKept.step (ext : Externals) {env : Environment} {verb : Verb}
    (kept : WellKept serde env) (fresh : verb.mintsFresh env = true) :
    WellKept serde (persist serde ext env verb) := by
  have both : Routing serde (persist serde ext env verb) ∧ Unique (persist serde ext env verb) := by
    refine (persist_edits ext env verb).preserve (fun env => Routing serde env ∧ Unique env) ?_
      ⟨kept.routing, kept.unique⟩
    intro before after edit ⟨routing, unique⟩
    exact ⟨routing.edit edit, unique.edit edit routing⟩
  refine ⟨both.1, both.2, ?_⟩
  have step : RosterStep env verb (persist serde ext env verb) := persist_roster ext env verb
  cases step with
  | keep unstaged ids => rw [ids]; exact kept.distinct
  | stage revision staged deployed next ids => rw [ids]; exact kept.distinct
  | deploy id unstaged minted ids =>
      rw [ids]
      exact List.nodup_append.mpr ⟨kept.distinct, List.nodup_singleton id, by
        intro other inside new member
        rw [List.mem_singleton.mp member]
        intro same
        exact Verb.minted_fresh minted fresh (same ▸ inside)⟩
  | undeploy id found unstaged located ids =>
      rw [ids]
      exact nodup_map_remove located kept.distinct

theorem WellKept.fresh (envId : EnvId) (name : String) (hostConfig : EnvironmentHostConfig)
    (revocation : RevocationConfig) (retention : RetentionPolicy) (health : HealthStatus) :
    WellKept serde (freshEnvironment envId name hostConfig revocation retention health) := by
  constructor
  · exact .fresh ..
  · constructor <;> simp [freshEnvironment]
  · exact List.nodup_nil

/-- Whether the bundle of a deployment may go, read off the rest: another live
deployment of it, or no endpoint that links it. -/
def linksSurvive (rest : Environment) (bundleId : BundleId) : Bool :=
  (rest.bundles.any fun b => b.bundleId = bundleId ∧ b.status ≠ .archived) ||
    (rest.messagingEndpoints.filter (linksBundle bundleId)).isEmpty

theorem any_withoutDeployment (env : Environment) (id : DeploymentId) (bundleId : BundleId) :
    (env.bundles.any fun b =>
        b.bundleId = bundleId ∧ b.deploymentId ∉ [id] ∧ b.status ≠ .archived) =
      (withoutDeployment env id).bundles.any fun b =>
        b.bundleId = bundleId ∧ b.status ≠ .archived := by
  rw [withoutDeployment, List.any_filter]
  congr 1
  funext b
  by_cases own : b.deploymentId = id <;> simp [own]

theorem checkRetireLinks_ok {env : Environment} {id : DeploymentId} :
    checkRetireLinks env id = .ok () ↔
      ∃ bundleId, deploymentBundle env id = some bundleId ∧
        linksSurvive (withoutDeployment env id) bundleId = true := by
  simp only [checkRetireLinks, checkRetireSetLinks, retiringBundles, deploymentIndex,
    deploymentBundle, find?_eq_locate]
  cases located : locate (fun b => decide (b.deploymentId = id)) env.bundles with
  | none => simp
  | some found =>
      simp only [List.not_mem_nil, if_false, List.nil_append, Option.map_some, Option.some.injEq,
        exists_eq_left', checkBundleLinks, any_withoutDeployment, linksSurvive]
      split
      · rename_i survives
        rw [survives, Bool.true_or]
        exact ⟨fun _ => rfl, fun _ => rfl⟩
      · rename_i alone
        simp only [Bool.not_eq_true] at alone
        rw [alone]
        by_cases linked : env.messagingEndpoints.filter (linksBundle found.hit.bundleId) = []
        · simp [withoutDeployment, linked]
        · simp [withoutDeployment, linked]

/-- A state of a retire: what is left of the rest, and the deployment still
there. `goal` is the environment without it, `keys` the revisions and whose they
are; no step but the last changes either. -/
structure Retiring (serde : SerdeJson) (id : DeploymentId) (bundleId : BundleId)
    (goal : Environment) (keys : List (RevisionId × DeploymentId)) (env : Environment) : Prop where
  kept : WellKept serde env
  bundle : deploymentBundle env id = some bundleId
  rest : withoutDeployment env id = goal
  owned : env.revisions.map (fun r => (r.revisionId, r.deploymentId)) = keys
  survive : linksSurvive goal bundleId = true

theorem untrack_filter (id : DeploymentId) (revisionId : RevisionId)
    (bundles : List BundleDeployment) :
    (untrack id revisionId bundles).filter (fun b => b.deploymentId ≠ id) =
      bundles.filter fun b => b.deploymentId ≠ id := by
  induction bundles with
  | nil => rfl
  | cons b rest ih =>
      simp only [untrack, List.map_cons] at ih ⊢
      by_cases own : b.deploymentId = id
      · simp only [own, if_true, List.filter_cons, ne_eq, not_true_eq_false, decide_false,
          Bool.false_eq_true, if_false]
        exact ih
      · simp only [own, if_false, List.filter_cons, ne_eq, not_false_eq_true, decide_true, if_true]
        rw [ih]

section Steps

variable {id : DeploymentId} {bundleId : BundleId} {goal : Environment}
  {keys : List (RevisionId × DeploymentId)} {env : Environment}

theorem Retiring.revision (retiring : Retiring serde id bundleId goal keys env)
    {revisionId : RevisionId} (own : (revisionId, id) ∈ keys) :
    ∃ found, locate (fun r => r.revisionId = revisionId) env.revisions = some found ∧
      found.hit.revisionId = revisionId ∧ found.hit.deploymentId = id := by
  rw [← retiring.owned] at own
  obtain ⟨r, member, same⟩ := List.mem_map.mp own
  cases same
  obtain ⟨found, located, rfl⟩ := locate_unique retiring.kept.unique.revisions member rfl
  exact ⟨found, located, rfl, rfl⟩

theorem Retiring.moved (retiring : Retiring serde id bundleId goal keys env)
    {after : Environment} {revisionId : RevisionId} (own : (revisionId, id) ∈ keys)
    (kept : WellKept serde after) (edit : RevisionEdit revisionId env after) :
    Retiring serde id bundleId goal keys after := by
  obtain ⟨there, here, sameId, hitDeployment⟩ := retiring.revision own
  cases edit with
  | keep => exact retiring
  | stage deployment revision named fresh =>
      exact absurd sameId (fresh _ (Located.mem_hit here))
  | advance found new bundles located newId newDeployment newBundle hop routing tracking =>
      cases here.symm.trans located
      have dropped : ∀ r : Revision, r.deploymentId = id → decide (r.deploymentId ≠ id) = false :=
        fun r same => by simp [same]
      refine ⟨kept, ?_, ?_, ?_, retiring.survive⟩
      · rw [← retiring.bundle]
        apply deploymentBundle_of_keys
        rcases tracking with rfl | rfl
        · rfl
        · exact untrack_keys _ _ _
      · have revisions : (there.replace new).filter (fun r => r.deploymentId ≠ id) =
            env.revisions.filter fun r => r.deploymentId ≠ id :=
          Located.filter_replace located (dropped _ hitDeployment)
            (dropped _ (newDeployment.trans hitDeployment))
        have deployments : bundles.filter (fun b => b.deploymentId ≠ id) =
            env.bundles.filter fun b => b.deploymentId ≠ id := by
          rcases tracking with rfl | rfl
          · rfl
          · rw [hitDeployment]
            exact untrack_filter _ _ _
        rw [← retiring.rest, withoutDeployment, withoutDeployment, revisions, deployments]
      · rw [← retiring.owned]
        exact Located.map_replace located _ (by rw [newId, newDeployment])

theorem Retiring.drain (ext : Externals) (retiring : Retiring serde id bundleId goal keys env)
    {revisionId : RevisionId} (own : (revisionId, id) ∈ keys) :
    Retiring serde id bundleId goal keys (persist serde ext env (.drainRevision revisionId)) :=
  retiring.moved own (retiring.kept.step ext rfl) (persist_drain env revisionId)

theorem Retiring.archive (ext : Externals) (retiring : Retiring serde id bundleId goal keys env)
    {revisionId : RevisionId} (own : (revisionId, id) ∈ keys) :
    Retiring serde id bundleId goal keys (persist serde ext env (.archiveRevision revisionId)) :=
  retiring.moved own (retiring.kept.step ext rfl) (persist_archive env revisionId)

/-- No split routes to the deployment any more. -/
def Quiet (env : Environment) (id : DeploymentId) : Prop :=
  ∀ split ∈ env.trafficSplits, split.deploymentId ≠ id

theorem takeSplit_quiet (env : Environment) (id : DeploymentId)
    (distinct : (env.trafficSplits.map (·.deploymentId)).Nodup) :
    (takeSplit env id).2.trafficSplits = env.trafficSplits.filter (fun s => s.deploymentId ≠ id) ∧
      ((takeSplit env id).1 = none → Quiet env id) := by
  simp only [takeSplit]
  cases located : locate (fun s => decide (s.deploymentId = id)) env.trafficSplits with
  | none =>
      have absent : Quiet env id := by
        intro split member
        exact of_decide_eq_false (locate_eq_none.mp located split member)
      refine ⟨?_, fun _ => absent⟩
      exact (List.filter_eq_self.mpr fun split member => decide_eq_true (absent split member)).symm
  | some found =>
      refine ⟨Located.remove_eq_filter located distinct, ?_⟩
      intro cleared
      cases cleared

/-- The first step succeeds, leaves the rest alone and takes the split. -/
theorem Retiring.begins (ext : Externals) (retiring : Retiring serde id bundleId goal keys env) :
    (Verb.beginRetire id).applies env = true ∧
      Retiring serde id bundleId goal keys (persist serde ext env (.beginRetire id)) ∧
      Quiet (persist serde ext env (.beginRetire id)) id := by
  have links : checkRetireLinks env id = .ok () :=
    checkRetireLinks_ok.mpr ⟨bundleId, retiring.bundle, retiring.rest ▸ retiring.survive⟩
  have bundle := retiring.bundle
  rw [deploymentBundle, find?_eq_locate] at bundle
  cases located : locate (fun b => decide (b.deploymentId = id)) env.bundles with
  | none => simp [located] at bundle
  | some found =>
      let marked : Environment :=
        { env with bundles := found.replace { found.hit with status := .archived } }
      have hit : found.hit.deploymentId = id := of_decide_eq_true (locate_eq_some located).2.1
      have taken := takeSplit_quiet marked id retiring.kept.unique.splits
      have begun : beginRetire env id =
          (.ok ⟨id, found.hit.status ≠ .archived, (takeSplit marked id).1⟩,
            (takeSplit marked id).2) := by
        rw [beginRetire, links, deploymentIndex, located]
      have bundles : (found.replace { found.hit with status := .archived }).filter
          (fun b => b.deploymentId ≠ id) = env.bundles.filter fun b => b.deploymentId ≠ id :=
        Located.filter_replace located (by simp [hit]) (by simp [hit])
      have kept : WellKept serde (persist serde ext env (.beginRetire id)) :=
        retiring.kept.step ext rfl
      have keys : (found.replace { found.hit with status := .archived }).map
          (fun b => (b.deploymentId, b.bundleId)) =
          env.bundles.map fun b => (b.deploymentId, b.bundleId) :=
        Located.map_replace located _ rfl
      refine ⟨by rw [Verb.applies, begun]; rfl, ?_⟩
      simp only [persist, begun, persistMutated] at kept ⊢
      split
      · rename_i mutated
        rw [if_pos mutated] at kept
        refine ⟨⟨kept, ?_, ?_, ?_, retiring.survive⟩, ?_⟩
        · rw [takeSplit_frame, ← retiring.bundle]
          exact deploymentBundle_of_keys keys id
        · rw [takeSplit_frame, taken.1, ← retiring.rest]
          simp only [withoutDeployment, marked, bundles, List.filter_filter, Bool.and_self]
        · rw [takeSplit_frame]
          exact retiring.owned
        · intro split member
          rw [taken.1] at member
          exact of_decide_eq_true (List.mem_filter.mp member).2
      · rename_i unchanged
        refine ⟨retiring, taken.2 ?_⟩
        simp only [BeginRetireOutcome.mutated, Bool.or_eq_true, not_or] at unchanged
        exact Option.not_isSome_iff_eq_none.mp unchanged.2

theorem drainRevision_eq {revisionId : RevisionId} {found : Located Revision}
    (located : locate (fun r => r.revisionId = revisionId) env.revisions = some found)
    (live : routable found.hit.lifecycle = true) :
    drainRevision env revisionId =
      (.ok ⟨{ found.hit with lifecycle := .draining }, found.hit.lifecycle⟩,
        { env with revisions := found.replace { found.hit with lifecycle := .draining } }) := by
  have edges : ∃ advanced, walkEdges drainChain found.hit.lifecycle false =
      (none, .draining, advanced) := by
    cases stage : found.hit.lifecycle with
    | ready => exact ⟨true, rfl⟩
    | draining => exact ⟨false, rfl⟩
    | _ => rw [stage] at live; cases live
  obtain ⟨advanced, edges⟩ := edges
  simp [drainRevision, walkRevisionChain, drainChain, located, missesStart] at edges ⊢
  simp [edges]

theorem archiveRevision_eq {revisionId : RevisionId} {found : Located Revision}
    (located : locate (fun r => r.revisionId = revisionId) env.revisions = some found)
    (unrouted : activeRefs env revisionId = []) :
    archiveRevision env revisionId =
      (.ok ⟨{ found.hit with lifecycle := .archived }, found.hit.lifecycle⟩,
        { env with
          revisions := found.replace { found.hit with lifecycle := .archived }
          bundles := untrack found.hit.deploymentId revisionId env.bundles }) := by
  have edges : ∃ advanced, walkEdges archiveChain found.hit.lifecycle false =
      (none, .archived, advanced) := by
    cases found.hit.lifecycle with
    | archived => exact ⟨false, rfl⟩
    | _ => exact ⟨true, rfl⟩
  obtain ⟨advanced, edges⟩ := edges
  simp [archiveRevision, walkRevisionChain, archiveChain, located, missesStart, unrouted] at edges ⊢
  simp [edges]

/-- A quiet deployment's revisions are in no split: an entry names a revision of
its split's own deployment. -/
theorem Retiring.unrouted (retiring : Retiring serde id bundleId goal keys env)
    (quiet : Quiet env id) {revisionId : RevisionId} (own : (revisionId, id) ∈ keys) :
    activeRefs env revisionId = [] := by
  obtain ⟨found, located, -, hitDeployment⟩ := retiring.revision own
  rw [activeRefs, List.flatMap_eq_nil_iff]
  intro split member
  rw [List.map_eq_nil_iff, List.filter_eq_nil_iff]
  intro entry inside same
  obtain ⟨revision, present, routed, -⟩ := (retiring.kept.routing.splits split member).routed
    entry inside
  rw [of_decide_eq_true same, revisionOf_located located] at present
  cases present
  exact quiet split member (routed.symm.trans hitDeployment)

structure Winding (serde : SerdeJson) (id : DeploymentId) (bundleId : BundleId)
    (goal : Environment) (keys : List (RevisionId × DeploymentId)) (todo : List RevisionId)
    (env : Environment) : Prop where
  retiring : Retiring serde id bundleId goal keys env
  quiet : Quiet env id
  listed : ∀ revisionId ∈ todo, (revisionId, id) ∈ keys
  pending : ∀ r ∈ env.revisions, r.deploymentId = id →
    r.lifecycle = .archived ∨ r.revisionId ∈ todo

theorem Winding.drain (ext : Externals) {todo : List RevisionId}
    (winding : Winding serde id bundleId goal keys todo env) {revisionId : RevisionId}
    (own : (revisionId, id) ∈ keys)
    (live : ∀ r ∈ env.revisions, r.revisionId = revisionId → routable r.lifecycle = true) :
    (Verb.drainRevision revisionId).applies env = true ∧
      Winding serde id bundleId goal keys todo
        (persist serde ext env (.drainRevision revisionId)) ∧
      ∀ r ∈ (persist serde ext env (.drainRevision revisionId)).revisions,
        routable r.lifecycle = true ∨ r ∈ env.revisions := by
  obtain ⟨found, located, sameId, hitDeployment⟩ := winding.retiring.revision own
  have member := Located.mem_hit located
  have routed := live _ member sameId
  have drained := drainRevision_eq located routed
  have after : persist serde ext env (.drainRevision revisionId) =
      { env with revisions := found.replace { found.hit with lifecycle := .draining } } := by
    simp only [persist, drained, persistRevision]
  refine ⟨by rw [Verb.applies, drained]; rfl,
    ⟨winding.retiring.drain ext own, by rw [after]; exact winding.quiet, winding.listed, ?_⟩, ?_⟩
  · rw [after]
    intro r inside its
    rcases Located.mem_replace.mp inside with rfl | other
    · rcases winding.pending _ member hitDeployment with archived | todo
      · rw [archived] at routed
        cases routed
      · exact .inr todo
    · exact winding.pending r (Located.mem_of_mem_remove located other) its
  · rw [after]
    intro r inside
    rcases Located.mem_replace.mp inside with rfl | other
    · exact .inl rfl
    · exact .inr (Located.mem_of_mem_remove located other)

theorem Winding.archive (ext : Externals) {revisionId : RevisionId} {rest : List RevisionId}
    (winding : Winding serde id bundleId goal keys (revisionId :: rest) env) :
    (Verb.archiveRevision revisionId).applies env = true ∧
      Winding serde id bundleId goal keys rest
        (persist serde ext env (.archiveRevision revisionId)) := by
  have own := winding.listed revisionId (List.mem_cons_self ..)
  obtain ⟨found, located, sameId, hitDeployment⟩ := winding.retiring.revision own
  have archived := archiveRevision_eq located (winding.retiring.unrouted winding.quiet own)
  have after : persist serde ext env (.archiveRevision revisionId) =
      { env with
        revisions := found.replace { found.hit with lifecycle := .archived }
        bundles := untrack found.hit.deploymentId revisionId env.bundles } := by
    simp only [persist, archived, persistRevision]
  refine ⟨by rw [Verb.applies, archived]; rfl,
    ⟨winding.retiring.archive ext own, by rw [after]; exact winding.quiet,
      fun other member => winding.listed other (List.mem_cons_of_mem _ member), ?_⟩⟩
  rw [after]
  intro r inside its
  rcases Located.mem_replace.mp inside with rfl | other
  · exact .inl rfl
  rcases winding.pending r (Located.mem_of_mem_remove located other) its with done | listed
  · exact .inl done
  rcases List.mem_cons.mp listed with same | later
  · have absent := Located.key_not_mem_remove located winding.retiring.kept.unique.revisions
    exact absurd (List.mem_map.mpr ⟨r, other, same.trans sameId.symm⟩) absent
  · exact .inr later

theorem Winding.drains (ext : Externals) {todo : List RevisionId} (revisionIds : List RevisionId)
    (winding : Winding serde id bundleId goal keys todo env)
    (own : ∀ revisionId ∈ revisionIds, (revisionId, id) ∈ keys)
    (live : ∀ r ∈ env.revisions, r.revisionId ∈ revisionIds → routable r.lifecycle = true) :
    ∃ after, attempt serde ext env (revisionIds.map .drainRevision) = some after ∧
      Winding serde id bundleId goal keys todo after := by
  induction revisionIds generalizing env with
  | nil => exact ⟨env, rfl, winding⟩
  | cons revisionId rest ih =>
      obtain ⟨applies, next, routed⟩ := winding.drain ext (own _ (List.mem_cons_self ..))
        fun r member same => live r member (same ▸ List.mem_cons_self ..)
      rw [List.map_cons, attempt_cons _ applies]
      refine ih next (fun other member => own other (List.mem_cons_of_mem _ member)) ?_
      intro r member listed
      rcases routed r member with still | before
      · exact still
      · exact live r before (List.mem_cons_of_mem _ listed)

theorem Winding.archives (ext : Externals) {todo : List RevisionId}
    (winding : Winding serde id bundleId goal keys todo env) :
    ∃ after, attempt serde ext env (todo.map .archiveRevision) = some after ∧
      Winding serde id bundleId goal keys [] after := by
  induction todo generalizing env with
  | nil => exact ⟨env, rfl, winding⟩
  | cons revisionId rest ih =>
      obtain ⟨applies, next⟩ := winding.archive ext
      rw [List.map_cons, attempt_cons _ applies]
      exact ih next

/-- With nothing left to archive the removal succeeds and leaves the rest. -/
theorem Winding.removes (ext : Externals)
    (winding : Winding serde id bundleId goal keys [] env) :
    attempt serde ext env [.removeBundle id] = some goal := by
  have bundle := winding.retiring.bundle
  rw [deploymentBundle, find?_eq_locate] at bundle
  cases located : locate (fun b => decide (b.deploymentId = id)) env.bundles with
  | none => simp [located] at bundle
  | some found =>
      have splits : (env.trafficSplits.countP fun s => s.deploymentId = id) = 0 := by
        rw [List.countP_eq_zero]
        intro split member
        simpa using winding.quiet split member
      have revisions : ((env.revisions.filter fun r => r.deploymentId = id).countP fun r =>
          r.lifecycle ≠ .archived) = 0 := by
        rw [List.countP_eq_zero]
        intro r member
        obtain ⟨inside, own⟩ := List.mem_filter.mp member
        rcases winding.pending r inside (of_decide_eq_true own) with archived | none_
        · simp [archived]
        · exact absurd none_ List.not_mem_nil
      have bundles := Located.remove_eq_filter located winding.retiring.kept.distinct
      have unsplit : env.trafficSplits.filter (fun s => s.deploymentId ≠ id) = env.trafficSplits :=
        List.filter_eq_self.mpr fun split member => decide_eq_true (winding.quiet split member)
      have removed : ∃ outcome, removeBundle env id = (.ok outcome, goal) := by
        rw [removeBundle, located]
        dsimp only
        rw [if_neg (by rw [splits, revisions]; simp), ← winding.retiring.rest, withoutDeployment,
          bundles, unsplit]
        exact ⟨_, rfl⟩
      obtain ⟨outcome, removed⟩ := removed
      have applies : (Verb.removeBundle id).applies env = true := by
        rw [Verb.applies, removed]
        rfl
      rw [attempt_cons _ applies, attempt, persist, removed]
      rfl

/-- What a plan lists, seen from the state it was made in. -/
structure Planned (id : DeploymentId) (keys : List (RevisionId × DeploymentId))
    (env : Environment) (steps : RetireSteps) : Prop where
  drains : ∀ revisionId ∈ steps.drainStamp, (revisionId, id) ∈ keys
  archives : ∀ revisionId ∈ steps.archive, (revisionId, id) ∈ keys
  live : ∀ r ∈ env.revisions, r.revisionId ∈ steps.drainStamp → routable r.lifecycle = true
  pending : ∀ r ∈ env.revisions, r.deploymentId = id →
    r.lifecycle = .archived ∨ r.revisionId ∈ steps.archive

theorem Retiring.plan (retiring : Retiring serde id bundleId goal keys env) :
    ∃ steps, retireSteps env id = .ok steps ∧ Planned id keys env steps := by
  have bundle := retiring.bundle
  rw [deploymentBundle, find?_eq_locate] at bundle
  have known : ∀ (wanted : Revision → Bool) (revisionId : RevisionId),
      revisionId ∈ ((env.revisions.filter fun r => r.deploymentId = id).filter wanted).map
        (·.revisionId) → (revisionId, id) ∈ keys := by
    intro wanted revisionId member
    obtain ⟨r, kept, rfl⟩ := List.mem_map.mp member
    obtain ⟨inside, own⟩ := List.mem_filter.mp (List.mem_filter.mp kept).1
    rw [← retiring.owned]
    exact List.mem_map.mpr ⟨r, inside, by rw [of_decide_eq_true own]⟩
  cases located : locate (fun b => decide (b.deploymentId = id)) env.bundles with
  | none => simp [located] at bundle
  | some found =>
      refine ⟨_, by rw [retireSteps, deploymentIndex, located], known _, known _, ?_, ?_⟩
      · intro r inside listed
        obtain ⟨other, kept, same⟩ := List.mem_map.mp listed
        obtain ⟨owned, ready⟩ := List.mem_filter.mp kept
        have one := List.inj_on_of_nodup_map retiring.kept.unique.revisions
          (List.mem_filter.mp owned).1 inside same
        rw [← one, of_decide_eq_true ready]
        rfl
      · intro r inside own
        by_cases archived : r.lifecycle = .archived
        · exact .inl archived
        · refine .inr (List.mem_map.mpr ⟨r, List.mem_filter.mpr ⟨?_, decide_eq_true archived⟩, rfl⟩)
          exact List.mem_filter.mpr ⟨inside, decide_eq_true own⟩

/-- From any state of a retire, the whole sequence succeeds. -/
theorem Retiring.completes (ext : Externals)
    (retiring : Retiring serde id bundleId goal keys env) :
    retire serde ext env id = some goal := by
  obtain ⟨applies, begun, quiet⟩ := retiring.begins ext
  obtain ⟨steps, plan, planned⟩ := begun.plan
  rw [retire, attempt_cons _ applies, attempt]
  simp only [plan, RetireSteps.verbs, attempt_append]
  have winding : Winding serde id bundleId goal keys steps.archive
      (persist serde ext env (.beginRetire id)) :=
    ⟨begun, quiet, planned.archives, planned.pending⟩
  obtain ⟨drained, drains, next⟩ := winding.drains ext steps.drainStamp planned.drains planned.live
  obtain ⟨archived, archives, last⟩ := next.archives ext
  rw [drains, Option.bind_some, archives, Option.bind_some]
  exact last.removes ext

theorem Retiring.run (ext : Externals) (verbs : List Verb)
    (retiring : Retiring serde id bundleId goal keys env)
    (steps : ∀ verb ∈ verbs, verb = .beginRetire id ∨ ∃ revisionId, (revisionId, id) ∈ keys ∧
      (verb = .drainRevision revisionId ∨ verb = .archiveRevision revisionId)) :
    Retiring serde id bundleId goal keys ((engine serde ext).run env verbs) := by
  induction verbs generalizing env with
  | nil => exact retiring
  | cons verb rest ih =>
      have later := fun next member => steps next (List.mem_cons_of_mem verb member)
      refine ih ?_ later
      rcases steps verb (List.mem_cons_self ..) with rfl | ⟨revisionId, own, rfl | rfl⟩
      · exact (retiring.begins ext).2.1
      · exact retiring.drain ext own
      · exact retiring.archive ext own

end Steps

theorem mem_of_cut {done rest front : List Verb} {last : Verb}
    (cut : front ++ [last] = done ++ rest) (unfinished : rest ≠ []) :
    ∀ verb ∈ done, verb ∈ front := by
  have whole : front = done ++ rest.dropLast := by
    have dropped := congrArg List.dropLast cut
    rwa [List.dropLast_concat, List.dropLast_append_of_ne_nil unfinished] at dropped
  intro verb member
  rw [whole]
  exact List.mem_append_left _ member

theorem retiring_of_reached (serde : SerdeJson) (ext : Externals) (envId : EnvId) (name : String)
    (hostConfig : EnvironmentHostConfig) (revocation : RevocationConfig)
    (retention : RetentionPolicy) (health : HealthStatus) (verbs : List Verb)
    (admits : (engine serde ext).Admits
      (freshEnvironment envId name hostConfig revocation retention health) verbs)
    (env : Environment)
    (reached : env = (engine serde ext).run
      (freshEnvironment envId name hostConfig revocation retention health) verbs)
    (id : DeploymentId) (begins : (beginRetire env id).1.isOk = true) :
    ∃ bundleId, Retiring serde id bundleId (withoutDeployment env id)
      (env.revisions.map fun r => (r.revisionId, r.deploymentId)) env := by
  have kept : WellKept serde env := by
    rw [reached]
    refine (engine serde ext).run_invariant (WellKept serde) ?_ _ verbs admits (.fresh ..)
    intro state verb fresh kept
    exact kept.step ext fresh
  have links : checkRetireLinks env id = .ok () := by
    rw [beginRetire] at begins
    split at begins
    · cases begins
    · assumption
  obtain ⟨bundleId, bundle, survive⟩ := checkRetireLinks_ok.mp links
  exact ⟨bundleId, kept, bundle, rfl, rfl, survive⟩

/-- Retire completes and resumes. In every environment an engine run reaches,
if a deployment's retire begins, every step of it succeeds and the deployment,
its revisions and its split are gone, with all else as it was. Cut off after any
of its steps and begun again, it ends in the same environment. -/
theorem retire_completes (serde : SerdeJson) (ext : Externals) (envId : EnvId) (name : String)
    (hostConfig : EnvironmentHostConfig) (revocation : RevocationConfig)
    (retention : RetentionPolicy) (health : HealthStatus) (verbs : List Verb)
    (admits : (engine serde ext).Admits
      (freshEnvironment envId name hostConfig revocation retention health) verbs)
    (env : Environment)
    (reached : env = (engine serde ext).run
      (freshEnvironment envId name hostConfig revocation retention health) verbs)
    (id : DeploymentId) (begins : (beginRetire env id).1.isOk = true) :
    retire serde ext env id = some (withoutDeployment env id) ∧
      ∃ steps, retireSteps (persist serde ext env (.beginRetire id)) id = .ok steps ∧
        ∀ done rest, .beginRetire id :: steps.verbs id = done ++ rest → rest ≠ [] →
          retire serde ext ((engine serde ext).run env done) id =
            some (withoutDeployment env id) := by
  obtain ⟨bundleId, retiring⟩ := retiring_of_reached serde ext envId name hostConfig revocation
    retention health verbs admits env reached id begins
  refine ⟨retiring.completes ext, ?_⟩
  obtain ⟨steps, plan, planned⟩ := (retiring.begins ext).2.1.plan
  refine ⟨steps, plan, ?_⟩
  intro done rest cut unfinished
  refine (retiring.run ext done ?_).completes ext
  rw [RetireSteps.verbs, ← List.cons_append] at cut
  intro verb member
  rcases List.mem_cons.mp (mem_of_cut cut unfinished verb member) with first | planning
  · exact .inl first
  rcases List.mem_append.mp planning with drain | archive
  · obtain ⟨revisionId, listed, rfl⟩ := List.mem_map.mp drain
    exact .inr ⟨revisionId, planned.drains revisionId listed, .inl rfl⟩
  · obtain ⟨revisionId, listed, rfl⟩ := List.mem_map.mp archive
    exact .inr ⟨revisionId, planned.archives revisionId listed, .inr rfl⟩

/-- The deployment of a routed run retires from under its split. -/
theorem retire_completes_of_routedRun :
    ∃ env, env = (engine firstSplitJson noExternals).run localFresh (routedRun.take 4) ∧
      env.trafficSplits = [firstSplit] ∧
      retire firstSplitJson noExternals env ⟨1⟩ = some (withoutDeployment env ⟨1⟩) ∧
      ∃ steps, retireSteps (persist firstSplitJson noExternals env (.beginRetire ⟨1⟩)) ⟨1⟩ =
          .ok steps ∧
        ∀ done rest, .beginRetire ⟨1⟩ :: steps.verbs ⟨1⟩ = done ++ rest → rest ≠ [] →
          retire firstSplitJson noExternals ((engine firstSplitJson noExternals).run env done) ⟨1⟩ =
            some (withoutDeployment env ⟨1⟩) := by
  refine ⟨_, rfl, by decide, ?_⟩
  refine retire_completes firstSplitJson noExternals _ _ _ _ _ _ (routedRun.take 4) ?_ _ rfl ⟨1⟩
    (by decide)
  simp [System.Admits, engine, routedRun, Verb.mintsFresh, freshEnvironment]

end GreenticDeployer.Engine
