import GreenticDeployer.Engine.Unrouted

/-!
# Revisions that no verb routes again

A split takes ready revisions only, and from draining, inactive, archived or
failed no chain of a lifecycle verb leads back to ready. What no split gives any
weight stays so, for as long as no verb brings it weight while it is ready.
-/

set_option maxHeartbeats 200000

namespace GreenticDeployer.Engine

open Spec Lib

variable {serde : SerdeJson}

def departed : RevisionLifecycle → Bool
  | .draining | .inactive | .failed | .archived => true
  | .staged | .warming | .ready => false

def isDeparted (env : Environment) (id : RevisionId) : Bool := (lifecycleOf env id).any departed

def Verb.drivesRevisions : Verb → Bool
  | .stageRevision .. | .warmRevision .. | .drainRevision _ | .archiveRevision _ => true
  | .setTrafficSplit .. | .rollbackTrafficSplit .. | .clearTrafficSplit _ => true
  | _ => false

def KeepsDeparted (chain : List Edge) : Prop :=
  ∀ start reached advanced, departed start = true → chain.getLast?.map Prod.snd = some reached →
    walkEdges chain start false = (none, reached, advanced) → departed reached = true

theorem warmChain_departed : KeepsDeparted warmChain := by
  intro start reached advanced past last edges
  cases start <;> cases past <;> cases last <;> cases edges

theorem drainChain_departed : KeepsDeparted drainChain := by
  intro start reached advanced past last edges
  cases last
  rfl

theorem archiveChain_departed : KeepsDeparted archiveChain := by
  intro start reached advanced past last edges
  cases last
  rfl

theorem departed_walk {env : Environment} {id other : RevisionId} {chain : List Edge}
    {expected : Option RevisionLifecycle} {onFinal : Revision → Revision} {prune : Bool}
    {gate : Environment → Revision → Except HealthGateFailure Unit} (keeps : KeepsDeparted chain)
    (identity : ∀ r, (onFinal r).revisionId = r.revisionId ∧ (onFinal r).lifecycle = r.lifecycle)
    (past : isDeparted env other = true) :
    isDeparted (persistRevision env
      (walkRevisionChain env id chain expected onFinal prune gate)) other = true := by
  have advanced : ∀ {found : Located Revision} {revision : Revision} {bundles},
      locate (fun r => r.revisionId = id) env.revisions = some found →
      revision.revisionId = found.hit.revisionId →
      (departed found.hit.lifecycle = true → departed revision.lifecycle = true) →
      isDeparted { env with revisions := found.replace revision, bundles := bundles } other =
        true := by
    intro found revision bundles located sameId leads
    have hitId : found.hit.revisionId = id := by simpa using (locate_eq_some located).2.1
    by_cases same : other = id
    · subst same
      have old : lifecycleOf env other = some found.hit.lifecycle := by
        rw [lifecycleOf, revisionOf_located located]
        rfl
      rw [isDeparted, old] at past
      rw [isDeparted, lifecycleOf, revisionOf,
        Located.find?_replace located (by simpa using sameId.trans hitId)]
      exact leads past
    · rw [isDeparted, lifecycleOf, revisionOf, Located.find?_replace_of_ne located]
      · exact past
      · simpa [hitId] using fun h => same h.symm
      · simpa [sameId, hitId] using fun h => same h.symm
  rcases outcome : walkRevisionChain env id chain expected onFinal prune gate with
    ⟨result, after⟩
  rcases walkRevisionChain_cases outcome with ⟨e, rfl, discarded⟩ | ⟨found, reached, passed, w⟩
  · simp only [persistRevision, discarded, Bool.false_eq_true, if_false]
    exact past
  · rcases w.settled with ⟨failure, -, -, -, rfl, rfl⟩ | ⟨rfl, rfl⟩
    · exact advanced w.located rfl fun _ => rfl
    · obtain ⟨sameId, sameLifecycle⟩ := identity { found.hit with lifecycle := reached }
      refine advanced w.located sameId fun live => ?_
      rw [sameLifecycle]
      exact keeps _ _ _ live w.final w.edges

theorem departed_stage {env : Environment} (payload : StageRevisionPayload) (now : DateTime)
    {other : RevisionId} (past : isDeparted env other = true) :
    isDeparted (persistRevision env (stageRevision env payload now)) other = true := by
  simp only [stageRevision]
  split
  · exact past
  split
  · exact past
  · obtain ⟨lifecycle, known, gone⟩ := (Option.any_eq_true _ _).mp past
    obtain ⟨revision, present, rfl⟩ := Option.map_eq_some_iff.mp known
    rw [isDeparted, lifecycleOf, persistRevision, revisionOf_append _ present]
    exact gone

theorem departed_persist (ext : Externals) {env : Environment} {verb : Verb} {id : RevisionId}
    (drives : verb.drivesRevisions = true) (past : isDeparted env id = true) :
    isDeparted (persist serde ext env verb) id = true := by
  have unmoved : verb.leavesRevisions = true →
      isDeparted (persist serde ext env verb) id = true := by
    intro leaves
    rw [isDeparted, lifecycleOf, revisionOf, persist_revisions ext env verb leaves]
    exact past
  cases verb with
  | stageRevision payload now => exact departed_stage payload now past
  | warmRevision payload now =>
      exact departed_walk warmChain_departed (fun _ => ⟨rfl, rfl⟩) past
  | drainRevision revisionId =>
      exact departed_walk drainChain_departed (fun _ => ⟨rfl, rfl⟩) past
  | archiveRevision revisionId =>
      exact departed_walk archiveChain_departed (fun _ => ⟨rfl, rfl⟩) past
  | setTrafficSplit payload key now => exact unmoved rfl
  | rollbackTrafficSplit deploymentId now => exact unmoved rfl
  | clearTrafficSplit deploymentId => exact unmoved rfl
  | _ => cases drives

def Verb.brings (serde : SerdeJson) (env : Environment) : Verb → List TrafficSplitEntry
  | .setTrafficSplit payload _ _ => payload.entries
  | .rollbackTrafficSplit id _ =>
    ((locate (fun s => s.deploymentId = id) env.trafficSplits).bind fun found =>
      found.hit.previousSplitRef.bind (decodeSplit serde)).elim [] (·.entries)
  | _ => []

def Verb.Routes (serde : SerdeJson) (env : Environment) (verb : Verb) (id : RevisionId) : Prop :=
  lifecycleOf env id = some .ready ∧
    ∃ entry ∈ verb.brings serde env, entry.revisionId = id ∧ 0 < entry.weightBps.toNat

instance (env : Environment) (verb : Verb) (id : RevisionId) :
    Decidable (verb.Routes serde env id) :=
  inferInstanceAs (Decidable (_ ∧ _))

def Brought (env after : Environment) (entries : List TrafficSplitEntry) : Prop :=
  ∀ split ∈ after.trafficSplits,
    split ∈ env.trafficSplits ∨ split.entries = entries ∧ AllReady env entries

theorem Brought.of_same {env after : Environment} {entries : List TrafficSplitEntry}
    (same : after.trafficSplits = env.trafficSplits) : Brought env after entries := by
  intro split member
  exact .inl (same ▸ member)

theorem brought_applyTrafficSplit {env : Environment} {payload : SetTrafficSplitPayload}
    {key : IdempotencyKey} {now : DateTime} {bundleId : BundleId}
    {found : Option (Located TrafficSplit)}
    (located : locate (fun s => s.deploymentId = payload.deploymentId) env.trafficSplits = found) :
    Brought env (applyTrafficSplit serde env payload key now bundleId found).2 payload.entries := by
  unfold applyTrafficSplit
  split
  · exact .of_same rfl
  rename_i admitted
  have ready := assertEntriesAllReady_ok admitted
  split
  · exact .of_same rfl
  dsimp only
  split
  · exact .of_same rfl
  intro split member
  cases found with
  | none =>
      rcases List.mem_append.mp member with before | added
      · exact .inl before
      · rw [List.mem_singleton.mp added]
        exact .inr ⟨rfl, ready⟩
  | some hit =>
      rcases Located.mem_replace.mp member with new | before
      · rw [new]
        exact .inr ⟨rfl, ready⟩
      · exact .inl (Located.mem_of_mem_remove located before)

theorem brought_setTrafficSplit (env : Environment) (payload : SetTrafficSplitPayload)
    (key : IdempotencyKey) (now : DateTime) :
    Brought env (persistMutated (·.mutated) env (setTrafficSplit serde env payload key now))
      payload.entries := by
  refine persistMutated_of (fun after => Brought env after payload.entries) (.of_same rfl) ?_
  unfold setTrafficSplit
  split
  · exact .of_same rfl
  split
  · exact .of_same rfl
  split
  · next located => exact brought_applyTrafficSplit located
  · next located =>
      split
      · split
        · exact .of_same rfl
        · exact .of_same rfl
      · exact brought_applyTrafficSplit located

theorem brought_rollbackTrafficSplit (env : Environment) (id : DeploymentId) (now : DateTime) :
    Brought env (persistOk env (rollbackTrafficSplit serde env id now))
      ((Verb.rollbackTrafficSplit id now).brings serde env) := by
  simp only [rollbackTrafficSplit]
  split
  · exact .of_same rfl
  rename_i found located
  split
  · exact .of_same rfl
  rename_i token stashed
  split
  · exact .of_same rfl
  rename_i value loaded
  split
  · exact .of_same rfl
  rename_i snapshot decoded
  split
  · exact .of_same rfl
  split
  · exact .of_same rfl
  rename_i admitted
  have decodes : decodeSplit serde token = some snapshot := by
    simp [decodeSplit, loaded, decoded, Except.toOption]
  have brings : (Verb.rollbackTrafficSplit id now).brings serde env = snapshot.entries := by
    simp [Verb.brings, located, stashed, decodes]
  intro split member
  rcases Located.mem_replace.mp member with new | before
  · rw [new, brings]
    exact .inr ⟨rfl, assertEntriesAllReady_ok admitted⟩
  · exact .inl (Located.mem_of_mem_remove located before)

theorem brought_clearTrafficSplit (env : Environment) (id : DeploymentId)
    (entries : List TrafficSplitEntry) :
    Brought env (persistMutated (·.mutated) env (clearTrafficSplit env id)) entries := by
  refine persistMutated_of (fun after => Brought env after entries) (.of_same rfl) ?_
  simp only [clearTrafficSplit]
  split
  · exact .of_same rfl
  split
  · exact .of_same rfl
  unfold takeSplit
  split
  · exact .of_same rfl
  · next found located =>
      intro split member
      exact .inl (Located.mem_of_mem_remove located member)

theorem RevisionEdit.splits {id : RevisionId} {env after : Environment}
    (edit : RevisionEdit id env after) : after.trafficSplits = env.trafficSplits := by
  cases edit <;> rfl

theorem brought_persist (ext : Externals) (env : Environment) {verb : Verb}
    (drives : verb.drivesRevisions = true) :
    Brought env (persist serde ext env verb) (verb.brings serde env) := by
  cases verb with
  | stageRevision payload now => exact .of_same (persist_stage env payload now).splits
  | warmRevision payload now => exact .of_same (persist_warm env payload now).splits
  | drainRevision revisionId => exact .of_same (persist_drain env revisionId).splits
  | archiveRevision revisionId => exact .of_same (persist_archive env revisionId).splits
  | setTrafficSplit payload key now => exact brought_setTrafficSplit env payload key now
  | rollbackTrafficSplit deploymentId now => exact brought_rollbackTrafficSplit env deploymentId now
  | clearTrafficSplit deploymentId => exact brought_clearTrafficSplit env deploymentId _
  | _ => cases drives

def Weightless (env : Environment) (id : RevisionId) : Prop :=
  ∀ split ∈ env.trafficSplits, ∀ entry ∈ split.entries, entry.revisionId = id →
    entry.weightBps.toNat = 0

theorem weightless_persist (ext : Externals) {env : Environment} {verb : Verb} {id : RevisionId}
    (drives : verb.drivesRevisions = true) (weightless : Weightless env id)
    (spares : ¬ verb.Routes serde env id) : Weightless (persist serde ext env verb) id := by
  intro split member entry inside named
  rcases brought_persist ext env drives split member with before | ⟨same, ready⟩
  · exact weightless split before entry inside named
  · rw [same] at inside
    obtain ⟨revision, present, live⟩ := ready entry inside
    have current : lifecycleOf env id = some .ready := by
      rw [lifecycleOf, ← named, present, Option.map_some, live]
    by_contra positive
    exact spares ⟨current, entry, inside, named, Nat.pos_of_ne_zero positive⟩

theorem not_routes_departed {env : Environment} {verb : Verb} {id : RevisionId}
    (past : isDeparted env id = true) : ¬ verb.Routes serde env id := by
  rintro ⟨ready, -⟩
  rw [isDeparted, ready] at past
  cases past

end GreenticDeployer.Engine
