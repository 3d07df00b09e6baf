import GreenticDeployer.Engine.Frames

/-!
# Revision sequence numbers

The next number of a deployment is counted from the revisions the document
still holds. No verb drops a revision but the one that drops its deployment
with it, so the count never falls back while the deployment lives.
-/

set_option maxHeartbeats 200000

namespace GreenticDeployer.Engine

open Spec Lib

variable {serde : SerdeJson}

def deploymentIds (env : Environment) : List DeploymentId := env.bundles.map (·.deploymentId)

/-- Whose each revision is, and its number. -/
def tally (env : Environment) : List (DeploymentId × UInt64) :=
  env.revisions.map fun r => (r.deploymentId, r.sequence)

def Verb.minted : Verb → Option DeploymentId
  | .addBundle _ id _ _ => some id
  | _ => none

def Verb.staged (env : Environment) : Verb → Option Revision
  | .stageRevision payload now => (Engine.stageRevision env payload now).1.toOption
  | _ => none

theorem untrack_deploymentIds (deploymentId : DeploymentId) (id : RevisionId)
    (bundles : List BundleDeployment) :
    (untrack deploymentId id bundles).map (·.deploymentId) = bundles.map (·.deploymentId) := by
  have keys := congrArg (List.map Prod.fst) (untrack_keys deploymentId id bundles)
  simpa only [List.map_map, Function.comp_def] using keys

theorem RevisionEdit.deploymentIds {id : RevisionId} {env after : Environment}
    (edit : RevisionEdit id env after) : deploymentIds after = deploymentIds env := by
  cases edit with
  | keep => rfl
  | stage => rfl
  | advance found new bundles located sameId sameDeployment sameBundle hop keeps tracking =>
      rcases tracking with rfl | rfl
      · rfl
      · exact untrack_deploymentIds _ _ _

theorem persist_walk_tally {env : Environment} {id : RevisionId} {chain : List Edge}
    {expected : Option RevisionLifecycle} {onFinal : Revision → Revision} {prune : Bool}
    {gate : Environment → Revision → Except HealthGateFailure Unit}
    (same : ∀ r, ((onFinal r).deploymentId, (onFinal r).sequence) = (r.deploymentId, r.sequence)) :
    tally (persistRevision env (walkRevisionChain env id chain expected onFinal prune gate)) =
      tally env := by
  rcases outcome : walkRevisionChain env id chain expected onFinal prune gate with
    ⟨result, after⟩
  rcases walkRevisionChain_cases outcome with ⟨e, rfl, discarded⟩ | ⟨found, reached, advanced, w⟩
  · simp only [persistRevision, discarded, Bool.false_eq_true, if_false]
  rcases w.settled with ⟨failure, rfl, valid, failed, rfl, rfl⟩ | ⟨rfl, rfl⟩
  · exact Located.map_replace w.located _ rfl
  · exact Located.map_replace w.located _ (same _)

/-- The four things that can happen to the roster of deployments and revisions. -/
inductive RosterStep (env : Environment) (verb : Verb) (after : Environment) : Prop
  | keep (unstaged : verb.staged env = none) (ids : deploymentIds after = deploymentIds env)
      (numbers : tally after = tally env)
  | stage (revision : Revision) (staged : verb.staged env = some revision)
      (deployed : revision.deploymentId ∈ deploymentIds env)
      (next : revision.sequence = (((tally env).filter fun entry =>
        entry.1 = revision.deploymentId).map Prod.snd).foldl max 0 + 1)
      (ids : deploymentIds after = deploymentIds env)
      (numbers : tally after = tally env ++ [(revision.deploymentId, revision.sequence)])
  | deploy (id : DeploymentId) (unstaged : verb.staged env = none) (minted : verb.minted = some id)
      (ids : deploymentIds after = deploymentIds env ++ [id]) (numbers : tally after = tally env)
  | undeploy (id : DeploymentId) (found : Located BundleDeployment)
      (unstaged : verb.staged env = none)
      (located : locate (fun b => b.deploymentId = id) env.bundles = some found)
      (ids : deploymentIds after = found.remove.map (·.deploymentId))
      (numbers : tally after = (tally env).filter fun entry => entry.1 ≠ id)

theorem stage_roster (ext : Externals) (env : Environment) (payload : StageRevisionPayload)
    (now : DateTime) :
    RosterStep env (.stageRevision payload now)
      (persist serde ext env (.stageRevision payload now)) := by
  simp only [persist]
  by_cases taken : env.revisions.any (fun r => r.revisionId = payload.revisionId) = true
  · have refused : stageRevision env payload now =
        (.error (.duplicateRevision env.environmentId payload.revisionId), env) := by
      rw [stageRevision, if_pos taken]
    rw [refused]
    exact .keep (by rw [Verb.staged, refused]; rfl) rfl rfl
  cases deployed : env.bundles.find? (fun b => b.deploymentId = payload.deploymentId) with
  | none =>
      have refused : stageRevision env payload now =
          (.error (.deploymentNotFound env.environmentId payload.deploymentId), env) := by
        rw [stageRevision, if_neg taken, deployed]
      rw [refused]
      exact .keep (by rw [Verb.staged, refused]; rfl) rfl rfl
  | some deployment =>
      obtain ⟨revision, done, own, number⟩ : ∃ revision, stageRevision env payload now =
          (.ok revision, { env with revisions := env.revisions ++ [revision] }) ∧
          revision.deploymentId = payload.deploymentId ∧
          revision.sequence = (((tally env).filter fun entry =>
            entry.1 = payload.deploymentId).map Prod.snd).foldl max 0 + 1 := by
        rw [stageRevision, if_neg taken, deployed]
        refine ⟨_, rfl, rfl, ?_⟩
        simp only [tally, List.filter_map, List.map_map, Function.comp_def]
      have member : revision.deploymentId ∈ deploymentIds env := by
        rw [own, deploymentIds, List.mem_map]
        exact ⟨deployment, List.mem_of_find?_eq_some deployed,
          by simpa using List.find?_some deployed⟩
      rw [← own] at number
      rw [done]
      refine .stage revision (by rw [Verb.staged, done]; rfl) member number rfl ?_
      simp only [tally, persistRevision, List.map_append, List.map_cons, List.map_nil]

theorem remove_roster (ext : Externals) (env : Environment) (id : DeploymentId) :
    RosterStep env (.removeBundle id) (persist serde ext env (.removeBundle id)) := by
  simp only [persist, removeBundle]
  cases located : locate (fun b => b.deploymentId = id) env.bundles with
  | none => exact .keep rfl rfl rfl
  | some found =>
      dsimp only
      split
      · exact .keep rfl rfl rfl
      · refine .undeploy id found rfl located rfl ?_
        simp only [tally, persistOk, List.filter_map, Function.comp_def]

theorem pin_deploymentIds (env : Environment) (index : Nat) (policyRef : PathBuf) :
    deploymentIds (pinRevenuePolicyRef env index policyRef) = deploymentIds env := by
  apply List.ext_getElem?
  intro i
  simp only [deploymentIds, pinRevenuePolicyRef, List.getElem?_map, List.getElem?_modify]
  cases env.bundles[i]? with
  | none => rfl
  | some b => by_cases same : index = i <;> simp [same]

theorem addBundle_deploymentIds (ext : Externals) (env : Environment) (payload : AddBundlePayload)
    (id : DeploymentId) (now : DateTime) (policyRef : PathBuf) :
    deploymentIds (persist serde ext env (.addBundle payload id now policyRef)) =
        deploymentIds env ∨
      deploymentIds (persist serde ext env (.addBundle payload id now policyRef)) =
        deploymentIds env ++ [id] := by
  by_cases taken : env.bundles.any (fun b =>
      b.bundleId = payload.bundleId ∧ b.customerId = payload.customerId) = true
  · left
    simp only [persist, addBundle, if_pos taken]
  · right
    simp only [persist, addBundle, if_neg taken, pin_deploymentIds]
    simp only [deploymentIds, List.map_append, List.map_cons, List.map_nil]

theorem updateBundle_deploymentIds (ext : Externals) (env : Environment)
    (payload : UpdateBundlePayload) (policyRef : PathBuf) :
    deploymentIds (persist serde ext env (.updateBundle payload policyRef)) =
      deploymentIds env := by
  simp only [persist, updateBundle]
  cases located : locate (fun b => b.deploymentId = payload.deploymentId) env.bundles with
  | none => rfl
  | some found =>
      have kept : (found.replace (patchBundle payload found.hit)).map (·.deploymentId) =
          env.bundles.map (·.deploymentId) := Located.map_replace located _ rfl
      dsimp only
      split
      · rw [pin_deploymentIds]
        exact kept
      · exact kept

theorem beginRetire_deploymentIds (env : Environment) (id : DeploymentId) :
    deploymentIds (beginRetire env id).2 = deploymentIds env := by
  simp only [beginRetire, deploymentIndex]
  split
  · rfl
  cases located : locate (fun b => b.deploymentId = id) env.bundles with
  | none => rfl
  | some found =>
      dsimp only
      rw [deploymentIds, takeSplit_frame]
      exact Located.map_replace located _ rfl

theorem persist_beginRetire_deploymentIds (ext : Externals) (env : Environment)
    (id : DeploymentId) :
    deploymentIds (persist serde ext env (.beginRetire id)) = deploymentIds env :=
  persistMutated_of (fun after => deploymentIds after = deploymentIds env) rfl
    (beginRetire_deploymentIds env id)

theorem add_roster (ext : Externals) (env : Environment) (payload : AddBundlePayload)
    (id : DeploymentId) (now : DateTime) (policyRef : PathBuf) :
    RosterStep env (.addBundle payload id now policyRef)
      (persist serde ext env (.addBundle payload id now policyRef)) := by
  have numbers : tally (persist serde ext env (.addBundle payload id now policyRef)) =
      tally env := by
    rw [tally, persist_revisions ext env _ rfl, tally]
  rcases addBundle_deploymentIds ext env payload id now policyRef with refused | added
  · exact .keep rfl refused numbers
  · exact .deploy id rfl rfl added numbers

theorem update_roster (ext : Externals) (env : Environment) (payload : UpdateBundlePayload)
    (policyRef : PathBuf) :
    RosterStep env (.updateBundle payload policyRef)
      (persist serde ext env (.updateBundle payload policyRef)) := by
  refine .keep rfl (updateBundle_deploymentIds ext env payload policyRef) ?_
  rw [tally, persist_revisions ext env _ rfl, tally]

theorem retire_roster (ext : Externals) (env : Environment) (id : DeploymentId) :
    RosterStep env (.beginRetire id) (persist serde ext env (.beginRetire id)) := by
  refine .keep rfl (persist_beginRetire_deploymentIds ext env id) ?_
  rw [tally, persist_revisions ext env _ rfl, tally]

theorem persist_roster (ext : Externals) (env : Environment) (verb : Verb) :
    RosterStep env verb (persist serde ext env verb) := by
  by_cases plain : verb.leavesBundles = true
  · have bundles : (persist serde ext env verb).bundles = env.bundles :=
      persist_bundles ext env verb plain
    have revisions : (persist serde ext env verb).revisions = env.revisions :=
      (persist_described ext env verb plain).2
    refine .keep ?_ ?_ ?_
    · cases verb with
      | stageRevision payload now => cases plain
      | _ => rfl
    · rw [deploymentIds, bundles, deploymentIds]
    · rw [tally, revisions, tally]
  cases verb with
  | stageRevision payload now => exact stage_roster ext env payload now
  | warmRevision payload now =>
      exact .keep rfl (persist_warm env payload now).deploymentIds (persist_walk_tally fun _ => rfl)
  | drainRevision id =>
      exact .keep rfl (persist_drain env id).deploymentIds (persist_walk_tally fun _ => rfl)
  | archiveRevision id =>
      exact .keep rfl (persist_archive env id).deploymentIds (persist_walk_tally fun _ => rfl)
  | addBundle payload id now policyRef => exact add_roster ext env payload id now policyRef
  | updateBundle payload policyRef => exact update_roster ext env payload policyRef
  | removeBundle id => exact remove_roster ext env id
  | beginRetire id => exact retire_roster ext env id
  | _ => exact absurd rfl plain

theorem toNat_max (a b : UInt64) : (max a b).toNat = max a.toNat b.toNat := by
  have unfolded : max a b = if a ≤ b then b else a := rfl
  rw [unfolded]
  split
  · rename_i le
    have below : a.toNat ≤ b.toNat := UInt64.le_iff_toNat_le.mp le
    omega
  · rename_i above
    have below : ¬ a.toNat ≤ b.toNat := fun le => above (UInt64.le_iff_toNat_le.mpr le)
    omega

theorem le_foldl_max (numbers : List UInt64) (start : UInt64) :
    start.toNat ≤ (numbers.foldl max start).toNat ∧
      ∀ n ∈ numbers, n.toNat ≤ (numbers.foldl max start).toNat := by
  induction numbers generalizing start with
  | nil => exact ⟨le_rfl, nofun⟩
  | cons head rest ih =>
      obtain ⟨first, others⟩ := ih (max start head)
      rw [toNat_max] at first
      simp only [List.foldl_cons]
      refine ⟨by omega, ?_⟩
      intro n member
      rcases List.mem_cons.mp member with rfl | later
      · omega
      · exact others n later

theorem foldl_max_le {numbers : List UInt64} {start : UInt64} {bound : Nat}
    (first : start.toNat ≤ bound) (all : ∀ n ∈ numbers, n.toNat ≤ bound) :
    (numbers.foldl max start).toNat ≤ bound := by
  induction numbers generalizing start with
  | nil => exact first
  | cons head rest ih =>
      have small := all head (List.mem_cons_self ..)
      refine ih ?_ fun n member => all n (List.mem_cons_of_mem _ member)
      rw [toNat_max]
      omega

def Counted (entries : List (DeploymentId × UInt64)) : Prop :=
  ∀ entry ∈ entries, entry.2.toNat ≤ entries.countP fun other => other.1 = entry.1

theorem next_above {entries : List (DeploymentId × UInt64)} (counted : Counted entries)
    (room : entries.length < 2 ^ 63) (id : DeploymentId) {number : UInt64}
    (next : number = ((entries.filter fun entry => entry.1 = id).map Prod.snd).foldl max 0 + 1) :
    (∀ entry ∈ entries, entry.1 = id → entry.2 < number) ∧
      number.toNat ≤ (entries.countP fun entry => entry.1 = id) + 1 := by
  have highest := (le_foldl_max ((entries.filter fun entry => entry.1 = id).map Prod.snd) 0).2
  have bounded : (((entries.filter fun entry => entry.1 = id).map Prod.snd).foldl max 0).toNat ≤
      entries.countP fun entry => entry.1 = id := by
    refine foldl_max_le (Nat.zero_le _) ?_
    intro n member
    obtain ⟨entry, kept, rfl⟩ := List.mem_map.mp member
    obtain ⟨inside, own⟩ := List.mem_filter.mp kept
    have small := counted entry inside
    rw [of_decide_eq_true own] at small
    exact small
  have few : (entries.countP fun entry => entry.1 = id) ≤ entries.length := List.countP_le_length
  have exact_ : number.toNat =
      (((entries.filter fun entry => entry.1 = id).map Prod.snd).foldl max 0).toNat + 1 := by
    rw [next, UInt64.toNat_add, UInt64.toNat_one, Nat.mod_eq_of_lt]
    omega
  refine ⟨?_, by omega⟩
  intro entry member own
  have below := highest entry.2
    (List.mem_map.mpr ⟨entry, List.mem_filter.mpr ⟨member, decide_eq_true own⟩, rfl⟩)
  rw [UInt64.lt_iff_toNat_lt]
  omega

theorem Counted.append {entries : List (DeploymentId × UInt64)} (counted : Counted entries)
    {id : DeploymentId} {number : UInt64}
    (next : number.toNat ≤ (entries.countP fun entry => entry.1 = id) + 1) :
    Counted (entries ++ [(id, number)]) := by
  intro entry member
  rw [List.countP_append]
  rcases List.mem_append.mp member with old | new
  · have small := counted entry old
    omega
  · rw [List.mem_singleton.mp new]
    simpa using next

theorem Counted.filter {entries : List (DeploymentId × UInt64)} (counted : Counted entries)
    (id : DeploymentId) : Counted (entries.filter fun entry => entry.1 ≠ id) := by
  intro entry member
  obtain ⟨inside, other⟩ := List.mem_filter.mp member
  have same : (entries.filter fun entry => entry.1 ≠ id).countP (fun e => e.1 = entry.1) =
      entries.countP fun e => e.1 = entry.1 := by
    rw [List.countP_filter]
    apply List.countP_congr
    intro e _
    have apart : entry.1 ≠ id := of_decide_eq_true other
    by_cases own : e.1 = entry.1
    · simp [own, apart]
    · simp [own]
  rw [same]
  exact counted entry inside

def stagedAlong (serde : SerdeJson) (ext : Externals) : Environment → List Verb → List Revision
  | _, [] => []
  | env, verb :: rest =>
    (verb.staged env).toList ++ stagedAlong serde ext (persist serde ext env verb) rest

/-- A roster with room for the deployments that a run has yet to mint. -/
structure Enrolled (env : Environment) (verbs : List Verb) : Prop where
  distinct : (deploymentIds env).Nodup
  minted : (verbs.filterMap Verb.minted).Nodup
  fresh : ∀ id ∈ deploymentIds env, id ∉ verbs.filterMap Verb.minted
  counted : Counted (tally env)

theorem Enrolled.step {env after : Environment} {verb : Verb} {rest : List Verb}
    (enrolled : Enrolled env (verb :: rest)) (room : env.revisions.length < 2 ^ 63)
    (step : RosterStep env verb after) : Enrolled after rest := by
  have sublist : (rest.filterMap Verb.minted).Sublist ((verb :: rest).filterMap Verb.minted) :=
    (List.sublist_cons_self verb rest).filterMap _
  have minted := enrolled.minted.sublist sublist
  have fresh : ∀ id ∈ deploymentIds env, id ∉ rest.filterMap Verb.minted :=
    fun id member later => enrolled.fresh id member (sublist.subset later)
  have length : (tally env).length < 2 ^ 63 := by
    rw [tally, List.length_map]
    exact room
  cases step with
  | keep unstaged ids numbers =>
      refine ⟨?_, minted, ?_, ?_⟩
      · rw [ids]
        exact enrolled.distinct
      · rw [ids]
        exact fresh
      · rw [numbers]
        exact enrolled.counted
  | stage revision staged deployed next ids numbers =>
      refine ⟨?_, minted, ?_, ?_⟩
      · rw [ids]
        exact enrolled.distinct
      · rw [ids]
        exact fresh
      · rw [numbers]
        exact enrolled.counted.append (next_above enrolled.counted length _ next).2
  | deploy id unstaged mints ids numbers =>
      have all : (verb :: rest).filterMap Verb.minted = id :: rest.filterMap Verb.minted :=
        List.filterMap_cons_some mints
      have once := enrolled.minted
      rw [all, List.nodup_cons] at once
      refine ⟨?_, minted, ?_, ?_⟩
      · rw [ids, List.nodup_append_comm]
        refine List.nodup_cons.mpr ⟨?_, enrolled.distinct⟩
        intro member
        refine enrolled.fresh id member ?_
        rw [all]
        exact List.mem_cons_self ..
      · intro other member
        rw [ids] at member
        rcases List.mem_append.mp member with old | new
        · exact fresh other old
        · rw [List.mem_singleton.mp new]
          exact once.1
      · rw [numbers]
        exact enrolled.counted
  | undeploy id found unstaged located ids numbers =>
      have kept : (deploymentIds after).Sublist (deploymentIds env) := by
        rw [ids]
        exact (Located.remove_sublist located).map _
      refine ⟨enrolled.distinct.sublist kept, minted, fun other member => fresh other
        (kept.subset member), ?_⟩
      rw [numbers]
      exact enrolled.counted.filter id

/-- A revision staged later on: of a deployment that is there, above all its
numbers, or of one still to be minted. -/
def Ahead (env : Environment) (verbs : List Verb) (later : Revision) : Prop :=
  (later.deploymentId ∈ deploymentIds env ∧
    ∀ entry ∈ tally env, entry.1 = later.deploymentId → entry.2 < later.sequence) ∨
  later.deploymentId ∈ verbs.filterMap Verb.minted

theorem Ahead.back {env after : Environment} {verb : Verb} {rest : List Verb} {later : Revision}
    (enrolled : Enrolled env (verb :: rest)) (step : RosterStep env verb after)
    (ahead : Ahead after rest later) : Ahead env (verb :: rest) later := by
  have sublist : (rest.filterMap Verb.minted).Sublist ((verb :: rest).filterMap Verb.minted) :=
    (List.sublist_cons_self verb rest).filterMap _
  rcases ahead with ⟨member, above⟩ | minted
  · cases step with
    | keep unstaged ids numbers => exact .inl ⟨ids ▸ member, numbers ▸ above⟩
    | stage revision staged deployed next ids numbers =>
        refine .inl ⟨ids ▸ member, fun entry inside own => above entry ?_ own⟩
        rw [numbers]
        exact List.mem_append_left _ inside
    | deploy id unstaged mints ids numbers =>
        rw [ids] at member
        rcases List.mem_append.mp member with old | new
        · exact .inl ⟨old, numbers ▸ above⟩
        · refine .inr ?_
          rw [List.mem_singleton.mp new, List.filterMap_cons_some mints]
          exact List.mem_cons_self ..
    | undeploy id found unstaged located ids numbers =>
        have hit : found.hit.deploymentId = id := of_decide_eq_true (locate_eq_some located).2.1
        have apart : later.deploymentId ≠ id := by
          intro same
          rw [ids, same, ← hit] at member
          exact Located.key_not_mem_remove located enrolled.distinct member
        refine .inl ⟨?_, fun entry inside own => above entry ?_ own⟩
        · rw [ids] at member
          exact ((Located.remove_sublist located).map _).subset member
        · rw [numbers]
          refine List.mem_filter.mpr ⟨inside, decide_eq_true ?_⟩
          rw [own]
          exact apart
  · exact .inr (sublist.subset minted)

theorem stagedAlong_ahead (ext : Externals) (env : Environment) (verbs : List Verb)
    (enrolled : Enrolled env verbs)
    (room : ∀ visited ∈ (engine serde ext).states env verbs, visited.revisions.length < 2 ^ 63) :
    (∀ later ∈ stagedAlong serde ext env verbs, Ahead env verbs later) ∧
      (stagedAlong serde ext env verbs).Pairwise fun earlier later =>
        earlier.deploymentId = later.deploymentId → earlier.sequence < later.sequence := by
  induction verbs generalizing env with
  | nil => exact ⟨fun later member => absurd member List.not_mem_nil, .nil⟩
  | cons verb rest ih =>
      have step : RosterStep env verb (persist serde ext env verb) := persist_roster ext env verb
      have here : env.revisions.length < 2 ^ 63 := room env (List.mem_cons_self ..)
      have length : (tally env).length < 2 ^ 63 := by
        rw [tally, List.length_map]
        exact here
      obtain ⟨ahead, increasing⟩ := ih (persist serde ext env verb) (enrolled.step here step)
        fun visited member => room visited (List.mem_cons_of_mem _ member)
      have back : ∀ later ∈ stagedAlong serde ext (persist serde ext env verb) rest,
          Ahead env (verb :: rest) later := fun later member =>
        (ahead later member).back enrolled step
      have unchanged : verb.staged env = none →
          stagedAlong serde ext env (verb :: rest) =
            stagedAlong serde ext (persist serde ext env verb) rest := by
        intro unstaged
        rw [stagedAlong, unstaged, Option.toList_none, List.nil_append]
      cases step with
      | keep unstaged => rw [unchanged unstaged]; exact ⟨back, increasing⟩
      | deploy id unstaged => rw [unchanged unstaged]; exact ⟨back, increasing⟩
      | undeploy id found unstaged => rw [unchanged unstaged]; exact ⟨back, increasing⟩
      | stage revision staged deployed next ids numbers =>
          have here : stagedAlong serde ext env (verb :: rest) =
              revision :: stagedAlong serde ext (persist serde ext env verb) rest := by
            rw [stagedAlong, staged, Option.toList_some, List.singleton_append]
          rw [here]
          refine ⟨?_, List.pairwise_cons.mpr ⟨?_, increasing⟩⟩
          · intro later member
            rcases List.mem_cons.mp member with rfl | after
            · exact .inl ⟨deployed, (next_above enrolled.counted length _ next).1⟩
            · exact back later after
          · intro later member same
            rcases ahead later member with ⟨_, above⟩ | minted
            · refine above (revision.deploymentId, revision.sequence) ?_ same
              rw [numbers]
              exact List.mem_append_right _ (List.mem_singleton.mpr rfl)
            · refine absurd ?_ (enrolled.fresh revision.deploymentId deployed)
              rw [same]
              exact ((List.sublist_cons_self verb rest).filterMap _).subset minted

/-- Revision sequences. Along every run of the engine from a fresh environment,
the numbers of the revisions staged for one deployment increase strictly. Minted
deployment ids are never minted twice, and a document holds fewer revisions than
a vector can. -/
theorem sequences_increase (serde : SerdeJson) (ext : Externals) (envId : EnvId) (name : String)
    (hostConfig : EnvironmentHostConfig) (revocation : RevocationConfig)
    (retention : RetentionPolicy) (health : HealthStatus) (verbs : List Verb)
    (minted : (verbs.filterMap Verb.minted).Nodup)
    (room : ∀ env ∈ (engine serde ext).states
        (freshEnvironment envId name hostConfig revocation retention health) verbs,
      env.revisions.length < 2 ^ 63) :
    (stagedAlong serde ext
      (freshEnvironment envId name hostConfig revocation retention health) verbs).Pairwise
        fun earlier later =>
          earlier.deploymentId = later.deploymentId → earlier.sequence < later.sequence := by
  have enrolled : Enrolled
      (freshEnvironment envId name hostConfig revocation retention health) verbs := by
    constructor
    · exact List.nodup_nil
    · exact minted
    · intro id member
      exact absurd member List.not_mem_nil
    · intro entry member
      exact absurd member List.not_mem_nil
  exact (stagedAlong_ahead ext _ verbs enrolled room).2

/-- A second revision is staged after the first was archived. -/
def restagedRun : List Verb :=
  [.addBundle demoBundle ⟨1⟩ 0 "policy.json", .stageRevision demoRevision 1, .archiveRevision ⟨7⟩,
    .stageRevision { demoRevision with revisionId := ⟨8⟩ } 2]

theorem sequences_increase_of_restagedRun :
    ((stagedAlong firstSplitJson noExternals localFresh restagedRun).map (·.sequence) = [1, 2]) ∧
    (stagedAlong firstSplitJson noExternals localFresh restagedRun).Pairwise fun earlier later =>
      earlier.deploymentId = later.deploymentId → earlier.sequence < later.sequence := by
  refine ⟨by decide, ?_⟩
  exact sequences_increase firstSplitJson noExternals _ _ _ _ _ _ restagedRun (by decide)
    (by decide)

end GreenticDeployer.Engine
