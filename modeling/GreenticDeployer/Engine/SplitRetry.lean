import GreenticDeployer.Engine.SplitWrites
import GreenticDeployer.Engine.Departed

/-!
# A traffic call sent again

Between a call and its retry any verb may run that leaves the split of the
deployment as it is. The deployment cannot go while it is routed, and no verb
takes a revision away from a deployment that stays, so the retry reaches the
key check whatever the lifecycles have become.
-/

set_option maxHeartbeats 200000

namespace GreenticDeployer.Engine

open Spec Lib

/-- Runs of the engine that leave the split of one deployment as it is. -/
def aside (serde : SerdeJson) (ext : Externals) (id : DeploymentId) : System Environment Verb where
  step := persist serde ext
  allowed := fun env verb => splitOf (persist serde ext env verb) id = splitOf env id

instance (serde : SerdeJson) (ext : Externals) (id : DeploymentId) (env : Environment)
    (verb : Verb) : Decidable ((aside serde ext id).allowed env verb) :=
  inferInstanceAs (Decidable (splitOf (persist serde ext env verb) id = splitOf env id))

variable {serde : SerdeJson} {env after : Environment} {id : DeploymentId}
  {entries : List TrafficSplitEntry}

theorem AllOwned.mono (owned : AllOwned env id entries)
    (keeps : ∀ revisionId revision, revisionOf env revisionId = some revision →
      revision.deploymentId = id → ∃ kept, revisionOf after revisionId = some kept ∧
        kept.deploymentId = id) : AllOwned after id entries := by
  intro entry member
  obtain ⟨revision, present, own⟩ := owned entry member
  exact keeps _ revision present own

theorem AllOwned.of_same (owned : AllOwned env id entries)
    (same : after.revisions = env.revisions) : AllOwned after id entries := by
  apply owned.mono
  intro revisionId revision present own
  exact ⟨revision, by rwa [revisionOf, same], own⟩

theorem RevisionEdit.keepsOwner {revisionId : RevisionId}
    (edit : RevisionEdit revisionId env after) (owned : AllOwned env id entries) :
    AllOwned after id entries := by
  cases edit with
  | keep => exact owned
  | stage deployment revision named fresh deployed bundle staged =>
      apply owned.mono
      intro other kept present own
      exact ⟨kept, revisionOf_append revision present, own⟩
  | advance found new bundles located sameId sameDeployment sameBundle hop routing tracking =>
      have hitId : found.hit.revisionId = revisionId := by
        simpa using (locate_eq_some located).2.1
      apply owned.mono
      intro other kept present own
      by_cases same : other = revisionId
      · subst same
        rw [revisionOf_located located] at present
        cases present
        refine ⟨new, Located.find?_replace located ?_, sameDeployment.trans own⟩
        simpa using sameId.trans hitId
      · refine ⟨kept, ?_, own⟩
        rw [← present]
        apply Located.find?_replace_of_ne located
        · simpa [hitId] using fun h => same h.symm
        · simpa [sameId, hitId] using fun h => same h.symm

theorem standing_of_revisionEdit {revisionId : RevisionId} (standing : Standing env id entries)
    (edit : RevisionEdit revisionId env after) : Standing after id entries where
  deployed := edit.deploymentIds.symm ▸ standing.deployed
  owned := edit.keepsOwner standing.owned

theorem standing_of_removeBundle {live : TrafficSplit} (other : DeploymentId)
    (standing : Standing env id entries) (routed : splitOf env id = some live) :
    Standing (persistOk env (removeBundle env other)) id entries := by
  simp only [removeBundle]
  cases located : locate (fun b => b.deploymentId = other) env.bundles with
  | none => exact standing
  | some found =>
      dsimp only
      split
      · exact standing
      rename_i dead
      have apart : other ≠ id := by
        intro same
        subst same
        have counted : 0 < env.trafficSplits.countP fun s => s.deploymentId = other := by
          rw [List.countP_pos_iff]
          exact ⟨live, List.mem_of_find?_eq_some routed, by simpa using List.find?_some routed⟩
        exact dead (.inl counted)
      constructor
      · obtain ⟨bundle, member, same⟩ := List.mem_map.mp standing.deployed
        rw [(locate_eq_some located).1] at member
        have hit : found.hit.deploymentId = other := by
          simpa using (locate_eq_some located).2.1
        apply List.mem_map.mpr
        refine ⟨bundle, ?_, same⟩
        rcases List.mem_append.mp member with early | rest
        · exact List.mem_append_left _ early
        rcases List.mem_cons.mp rest with rfl | late
        · exact absurd (hit.symm.trans same) apart
        · exact List.mem_append_right _ late
      · apply standing.owned.mono
        intro revisionId revision present own
        refine ⟨revision, find?_filter_of_kept present ?_, own⟩
        simpa [own] using apart.symm

theorem standing_persist (ext : Externals) {live : TrafficSplit} (verb : Verb)
    (standing : Standing env id entries) (routed : splitOf env id = some live) :
    Standing (persist serde ext env verb) id entries := by
  by_cases plain : verb.leavesBundles = true
  · constructor
    · rw [deploymentIds, persist_bundles ext env verb plain]
      exact standing.deployed
    · exact standing.owned.of_same (persist_described ext env verb plain).2
  cases verb with
  | stageRevision payload now => exact standing_of_revisionEdit standing (persist_stage env payload now)
  | warmRevision payload now => exact standing_of_revisionEdit standing (persist_warm env payload now)
  | drainRevision revisionId => exact standing_of_revisionEdit standing (persist_drain env revisionId)
  | archiveRevision revisionId => exact standing_of_revisionEdit standing (persist_archive env revisionId)
  | addBundle payload added now policyRef =>
      constructor
      · rcases addBundle_deploymentIds ext env payload added now policyRef with refused | grown
        · exact refused.symm ▸ standing.deployed
        · exact grown.symm ▸ List.mem_append_left _ standing.deployed
      · exact standing.owned.of_same (persist_revisions ext env _ rfl)
  | updateBundle payload policyRef =>
      constructor
      · exact (updateBundle_deploymentIds ext env payload policyRef).symm ▸ standing.deployed
      · exact standing.owned.of_same (persist_revisions ext env _ rfl)
  | removeBundle other => exact standing_of_removeBundle other standing routed
  | beginRetire other =>
      constructor
      · exact (persist_beginRetire_deploymentIds ext env other).symm ▸ standing.deployed
      · exact standing.owned.of_same (persist_revisions ext env _ rfl)
  | _ => exact absurd rfl plain

/-- The split a call left live, and what a retry of it needs. -/
structure Settled (env : Environment) (payload : SetTrafficSplitPayload) (key : IdempotencyKey)
    (live : TrafficSplit) : Prop where
  standing : Standing env payload.deploymentId payload.entries
  present : splitOf env payload.deploymentId = some live
  stamped : live.idempotencyKey = key.asStr
  entries : SameOrder live.entries payload.entries

variable {payload : SetTrafficSplitPayload} {key : IdempotencyKey}

theorem Written.settled {split : TrafficSplit} {splits : List TrafficSplit}
    (written : Written payload key split)
    (standing : Standing env payload.deploymentId payload.entries)
    (present : splits.find? (fun s => s.deploymentId = payload.deploymentId) = some split) :
    Settled { env with trafficSplits := splits } payload key split where
  standing := ⟨standing.deployed, standing.owned⟩
  present := present
  stamped := written.stamp
  entries := by
    rw [written.entries]
    exact fun _ => rfl

theorem setTrafficSplit_settled {now : DateTime} {result : TrafficSplitTransition}
    (ran : setTrafficSplit serde env payload key now = (.ok result, after)) :
    ∃ live, Settled (if result.mutated then after else env) payload key live := by
  obtain ⟨standing, call⟩ := setTrafficSplit_cases ran
  cases call with
  | replay live present stamped matched =>
      exact ⟨live, standing, present, stamped, entriesMatch_iff.mp matched⟩
  | first split vacant written ready generation unstashed =>
      refine ⟨split, written.settled standing ?_⟩
      rw [splitOf] at vacant
      simp [List.find?_append, vacant, written.deploymentId]
  | overwrite found split value located unstamped written ready generation encoded stashed =>
      refine ⟨split, written.settled standing ?_⟩
      exact Located.find?_replace located (by simpa using written.deploymentId)

theorem Settled.persisted (ext : Externals) {live : TrafficSplit} (verb : Verb)
    (settled : Settled env payload key live)
    (kept : splitOf (persist serde ext env verb) payload.deploymentId =
      splitOf env payload.deploymentId) :
    Settled (persist serde ext env verb) payload key live where
  standing := standing_persist ext verb settled.standing settled.present
  present := kept.trans settled.present
  stamped := settled.stamped
  entries := settled.entries

theorem Settled.run (ext : Externals) {live : TrafficSplit} (verbs : List Verb)
    (settled : Settled env payload key live)
    (admits : (aside serde ext payload.deploymentId).Admits env verbs) :
    Settled ((aside serde ext payload.deploymentId).run env verbs) payload key live := by
  induction verbs generalizing env with
  | nil => exact settled
  | cons verb rest ih => exact ih (settled.persisted ext verb admits.1) admits.2

theorem Settled.retry (serde : SerdeJson) {live : TrafficSplit} {again : SetTrafficSplitPayload}
    (later : DateTime) (settled : Settled env payload key live) (same : again.deploymentId = payload.deploymentId) :
    (SameOrder payload.entries again.entries →
      setTrafficSplit serde env again key later = (.ok ⟨live, none, none⟩, env)) ∧
    (¬ SameOrder payload.entries again.entries →
      ∃ e, setTrafficSplit serde env again key later = (.error e, env)) := by
  constructor
  · intro ordered
    have standing := settled.standing.reordered ordered.perm
    have matched : entriesMatch live.entries again.entries = true :=
      entriesMatch_iff.mpr fun id => (settled.entries id).trans (ordered id)
    rw [← same] at standing
    rw [setTrafficSplit_retry standing (fun _ member => member) (same ▸ settled.present)
      settled.stamped, if_pos matched]
  · intro disordered
    have mismatched : entriesMatch live.entries again.entries ≠ true := by
      intro matched
      apply disordered
      intro id
      exact (settled.entries id).symm.trans (entriesMatch_iff.mp matched id)
    rw [setTrafficSplit, same]
    split
    · exact ⟨_, rfl⟩
    split
    · exact ⟨_, rfl⟩
    obtain ⟨found, located, rfl⟩ := splitOf_eq_some settled.present
    rw [located]
    dsimp only
    rw [if_pos settled.stamped, if_neg mismatched]
    exact ⟨_, rfl⟩

/-- A call that succeeded, then any verbs that leave the deployment's split as
it is: the same key with the same entries in another order is answered by the
live split and no change, and the same key with other entries is refused,
exactly when the reordering leaves the entries of every revision in order. -/
theorem split_retry (serde : SerdeJson) (ext : Externals) (env : Environment)
    (payload : SetTrafficSplitPayload) (key : IdempotencyKey) (now : DateTime)
    (succeeded : (setTrafficSplit serde env payload key now).1.isOk = true) (verbs : List Verb)
    (admits : (aside serde ext payload.deploymentId).Admits
      (persist serde ext env (.setTrafficSplit payload key now)) verbs)
    (current : Environment)
    (reached : current = (aside serde ext payload.deploymentId).run
      (persist serde ext env (.setTrafficSplit payload key now)) verbs)
    (again : SetTrafficSplitPayload) (same : again.deploymentId = payload.deploymentId)
    (later : DateTime) :
    ((payload.entries.Perm again.entries → ∃ live,
        splitOf current payload.deploymentId = some live ∧
        setTrafficSplit serde current again key later = (.ok ⟨live, none, none⟩, current)) ∧
      (¬ payload.entries.Perm again.entries → ∃ e,
        setTrafficSplit serde current again key later = (.error e, current))) ↔
      (payload.entries.Perm again.entries →
        ∀ id, ofRevision id payload.entries = ofRevision id again.entries) := by
  obtain ⟨result, after, ran⟩ : ∃ result after,
      setTrafficSplit serde env payload key now = (.ok result, after) := by
    rcases called : setTrafficSplit serde env payload key now with ⟨outcome, after⟩
    cases outcome with
    | ok result => exact ⟨result, after, rfl⟩
    | error e =>
        rw [called] at succeeded
        cases succeeded
  obtain ⟨live, settled⟩ := setTrafficSplit_settled ran
  have stored : persist serde ext env (.setTrafficSplit payload key now) =
      if result.mutated then after else env := by
    simp only [persist, ran, persistMutated]
  rw [stored] at reached admits
  have kept := settled.run ext verbs admits
  rw [← reached] at kept
  have answers := kept.retry serde later same
  constructor
  · intro answered reordered
    obtain ⟨split, -, replayed⟩ := answered.1 reordered
    by_contra disordered
    obtain ⟨e, refused⟩ := answers.2 disordered
    rw [refused] at replayed
    cases replayed
  · intro ordered
    constructor
    · intro reordered
      exact ⟨live, kept.present, answers.1 (ordered reordered)⟩
    · intro different
      exact answers.2 fun sameOrder => different sameOrder.perm

def twoReady : Environment :=
  (engine firstSplitJson noExternals).run localFresh
    [.addBundle demoBundle ⟨1⟩ 0 "policy.json", .stageRevision demoRevision 1,
      .warmRevision ⟨⟨7⟩, .ok (), .staged⟩ 2, .stageRevision { demoRevision with revisionId := ⟨8⟩ } 3,
      .warmRevision ⟨⟨8⟩, .ok (), .staged⟩ 4]

def halfEach : SetTrafficSplitPayload := ⟨⟨1⟩, [⟨⟨7⟩, 4000⟩, ⟨⟨8⟩, 6000⟩], "op", none⟩

def halfEachTurned : SetTrafficSplitPayload := ⟨⟨1⟩, [⟨⟨8⟩, 6000⟩, ⟨⟨7⟩, 4000⟩], "op", none⟩

/-- One of two routed revisions drains before the retry. -/
theorem split_retry_of_drained :
    ∃ current live, current = (aside firstSplitJson noExternals ⟨1⟩).run
        (persist firstSplitJson noExternals twoReady (.setTrafficSplit halfEach firstKey 5))
        [.drainRevision ⟨7⟩] ∧
      splitOf current ⟨1⟩ = some live ∧
      setTrafficSplit firstSplitJson current halfEachTurned firstKey 9 =
        (.ok ⟨live, none, none⟩, current) := by
  have reordered : halfEach.entries.Perm halfEachTurned.entries := List.Perm.swap _ _ _
  have answered := (split_retry firstSplitJson noExternals twoReady halfEach firstKey 5
    (by decide) [.drainRevision ⟨7⟩] (by decide) _ rfl halfEachTurned rfl 9).mpr
    (fun moved => sameOrder_of_distinct (by decide) moved)
  obtain ⟨live, present, replayed⟩ := answered.1 reordered
  exact ⟨_, live, rfl, present, replayed⟩

/-- One revision at two weights: the retry with the entries turned is refused. -/
theorem split_retry_refused :
    ∃ env payload again, (setTrafficSplit firstSplitJson env payload firstKey 5).1.isOk = true ∧
      payload.deploymentId = again.deploymentId ∧ payload.entries.Perm again.entries ∧
      (setTrafficSplit firstSplitJson
        (persist firstSplitJson noExternals env (.setTrafficSplit payload firstKey 5))
        again firstKey 9).1 = .error (.idempotencyKeyReused "k1" ⟨1⟩) :=
  ⟨twoReady, { halfEach with entries := twoWeights.entries },
    { halfEach with entries := twoWeightsSwapped.entries }, by decide, rfl,
    List.Perm.swap _ _ _, by rfl⟩

end GreenticDeployer.Engine
