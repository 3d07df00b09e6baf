import GreenticDeployer.Lib.Located
import GreenticDeployer.Lib.MaxBy
import GreenticDeployer.Local.RuntimeConfig
import GreenticDeployer.Spec.Valid
import Mathlib.Data.List.Find

/-!
# The seed a worker boots from

A worker mounts a copy of the environment without the revisions that nothing
routes to. What validation still needs of them is taken back: a pack that a
deployment overrides stays listed by a revision that is not archived.
-/

set_option maxHeartbeats 200000

namespace GreenticDeployer.Local

open Spec Lib Engine

def referenced (env : Environment) (keep : List RevisionId) : List RevisionId :=
  keep ++ (env.trafficSplits.flatMap fun split => split.entries.map (·.revisionId)) ++
    env.bundles.flatMap (·.currentRevisions)

def unreferenced (env : Environment) (keep : List RevisionId) : List RevisionId :=
  (env.revisions.map (·.revisionId)).filter (· ∉ referenced env keep)

def packIds (revision : Revision) : List String := revision.packList.map (·.packId.asStr)

def liveRevisions (env : Environment) (bundle : BundleDeployment) : List Revision :=
  env.revisions.filter fun r => r.deploymentId = bundle.deploymentId ∧ r.lifecycle ≠ .archived

/-- What the walk over the overrides of a deployment carries. -/
structure Protection where
  drop : List RevisionId
  covered : List String

/-- One override: unless a revision that stays lists it, the newest that does is
taken back. -/
def protectPack (live : List Revision) (state : Protection) (pack : String) : Protection :=
  if pack ∈ state.covered then state
  else
    match maxByKey (·.sequence.toNat) (live.filter fun r => pack ∈ packIds r) with
    | none => state
    | some newest =>
      ⟨state.drop.filter (· ≠ newest.revisionId), state.covered ++ packIds newest⟩

def protectionStart (live : List Revision) (drop : List RevisionId) : Protection :=
  ⟨drop, (live.filter fun r => r.revisionId ∉ drop).flatMap packIds⟩

def protectBundle (env : Environment) (drop : List RevisionId) (bundle : BundleDeployment) :
    List RevisionId :=
  (bundle.configOverrides.keys.foldl (protectPack (liveRevisions env bundle))
    (protectionStart (liveRevisions env bundle) drop)).drop

def protectOverrideCoverage (env : Environment) (drop : List RevisionId) : List RevisionId :=
  (env.bundles.filter fun b => b.configOverrides.keys ≠ []).foldl (protectBundle env) drop

def seedDrop (env : Environment) (keep : List RevisionId) : List RevisionId :=
  protectOverrideCoverage env (unreferenced env keep)

def withoutRevisions (env : Environment) (drop : List RevisionId) : Environment :=
  { env with revisions := env.revisions.filter fun r => r.revisionId ∉ drop }

/-- A `Cow` of the environment. -/
inductive Seed where
  | borrowed (env : Environment)
  | owned (pruned : Environment)

def Seed.asRef : Seed → Environment
  | .borrowed env => env
  | .owned pruned => pruned

/-- A pruned copy that would not validate is not staged. -/
def pruneForSeed (ext : Externals) (env : Environment) (keep : List RevisionId) : Seed :=
  if seedDrop env keep = [] then .borrowed env
  else
    match (withoutRevisions env (seedDrop env keep)).validate ext with
    | .ok () => .owned (withoutRevisions env (seedDrop env keep))
    | .error _ => .borrowed env

def Covers (live : List Revision) (state : Protection) : Prop :=
  ∀ pack ∈ state.covered, ∃ r ∈ live, pack ∈ packIds r ∧ r.revisionId ∉ state.drop

theorem covers_start (live : List Revision) (drop : List RevisionId) :
    Covers live (protectionStart live drop) := by
  intro pack covered
  obtain ⟨r, member, listed⟩ := List.mem_flatMap.mp covered
  obtain ⟨inside, stays⟩ := List.mem_filter.mp member
  exact ⟨r, inside, listed, of_decide_eq_true stays⟩

/-- What one override does to the walk: it drops no more, covers no less, keeps the
coverage and covers the override if any live revision lists it. -/
structure Protects (live : List Revision) (pack : String) (before after : Protection) : Prop where
  shrinks : after.drop ⊆ before.drop
  grows : before.covered ⊆ after.covered
  covers : Covers live before → Covers live after
  covered : (∃ r ∈ live, pack ∈ packIds r) → pack ∈ after.covered

theorem protectPack_protects (live : List Revision) (state : Protection) (pack : String) :
    Protects live pack state (protectPack live state pack) := by
  unfold protectPack
  split
  · rename_i already
    exact ⟨fun _ h => h, fun _ h => h, id, fun _ => already⟩
  · split
    · rename_i none_
      refine ⟨fun _ h => h, fun _ h => h, id, ?_⟩
      rintro ⟨r, inside, listed⟩
      have member : r ∈ live.filter fun r => pack ∈ packIds r :=
        List.mem_filter.mpr ⟨inside, decide_eq_true listed⟩
      rw [maxByKey_none.mp none_] at member
      cases member
    · rename_i newest found
      obtain ⟨inside, listed⟩ := List.mem_filter.mp (maxByKey_greatest found).1
      refine ⟨List.filter_subset_self _, List.subset_append_left _ _, ?_, ?_⟩
      · intro covers other covered
        rcases List.mem_append.mp covered with before | new
        · obtain ⟨r, live_, lists, stays⟩ := covers other before
          exact ⟨r, live_, lists, fun dropped => stays (List.mem_of_mem_filter dropped)⟩
        · refine ⟨newest, inside, new, ?_⟩
          simp
      · intro _
        exact List.mem_append_right _ (of_decide_eq_true listed)

theorem protects_all (live : List Revision) (packs : List String) (state : Protection) :
    let final := packs.foldl (protectPack live) state
    final.drop ⊆ state.drop ∧ state.covered ⊆ final.covered ∧
      (Covers live state → Covers live final) ∧
      ∀ pack ∈ packs, (∃ r ∈ live, pack ∈ packIds r) → pack ∈ final.covered := by
  induction packs generalizing state with
  | nil => exact ⟨fun _ h => h, fun _ h => h, id, by simp⟩
  | cons head tail ih =>
      have first := protectPack_protects live state head
      obtain ⟨shrinks, grows, covers, covered⟩ := ih (protectPack live state head)
      refine ⟨fun _ h => first.shrinks (shrinks h), fun _ h => grows (first.grows h),
        fun h => covers (first.covers h), ?_⟩
      intro pack member listed
      rcases List.mem_cons.mp member with rfl | later
      · exact grows (first.covered listed)
      · exact covered pack later listed

theorem protectBundle_subset (env : Environment) (drop : List RevisionId)
    (bundle : BundleDeployment) : protectBundle env drop bundle ⊆ drop :=
  (protects_all _ _ (protectionStart (liveRevisions env bundle) drop)).1

theorem protectBundle_covers (env : Environment) (drop : List RevisionId)
    {bundle : BundleDeployment} {pack : String} (override : pack ∈ bundle.configOverrides.keys)
    (listed : ∃ r ∈ liveRevisions env bundle, pack ∈ packIds r) :
    ∃ r ∈ liveRevisions env bundle, pack ∈ packIds r ∧
      r.revisionId ∉ protectBundle env drop bundle := by
  obtain ⟨-, -, covers, covered⟩ := protects_all (liveRevisions env bundle)
    bundle.configOverrides.keys (protectionStart (liveRevisions env bundle) drop)
  exact covers (covers_start _ _) pack (covered pack override listed)

theorem protectBundles_subset (env : Environment) (bundles : List BundleDeployment)
    (drop : List RevisionId) : bundles.foldl (protectBundle env) drop ⊆ drop := by
  induction bundles generalizing drop with
  | nil => exact fun _ h => h
  | cons head tail ih =>
      exact fun _ h => protectBundle_subset env drop head (ih _ h)

theorem protectBundles_covers (env : Environment) (bundles : List BundleDeployment)
    (drop : List RevisionId) {bundle : BundleDeployment} (visited : bundle ∈ bundles)
    {pack : String} (override : pack ∈ bundle.configOverrides.keys)
    (listed : ∃ r ∈ liveRevisions env bundle, pack ∈ packIds r) :
    ∃ r ∈ liveRevisions env bundle, pack ∈ packIds r ∧
      r.revisionId ∉ bundles.foldl (protectBundle env) drop := by
  induction bundles generalizing drop with
  | nil => cases visited
  | cons head tail ih =>
      rcases List.mem_cons.mp visited with rfl | later
      · obtain ⟨r, live, lists, stays⟩ := protectBundle_covers env drop override listed
        exact ⟨r, live, lists, fun dropped => stays (protectBundles_subset env tail _ dropped)⟩
      · exact ih _ later

theorem seedDrop_unreferenced (env : Environment) (keep : List RevisionId) :
    seedDrop env keep ⊆ unreferenced env keep :=
  protectBundles_subset env _ _

theorem not_dropped {env : Environment} {keep : List RevisionId} {id : RevisionId}
    (named : id ∈ referenced env keep) : id ∉ seedDrop env keep := by
  intro dropped
  have unnamed := (List.mem_filter.mp (seedDrop_unreferenced env keep dropped)).2
  exact of_decide_eq_true unnamed named

section Valid

variable {env : Environment} {keep : List RevisionId}

theorem find?_withoutRevisions {drop : List RevisionId} {wanted : Revision → Bool}
    (stays : ∀ r ∈ env.revisions, wanted r = true → r.revisionId ∉ drop) :
    (withoutRevisions env drop).revisions.find? wanted = env.revisions.find? wanted := by
  rw [withoutRevisions, List.find?_filter]
  refine List.find?_congr fun r member => ?_
  cases hit : wanted r with
  | false => simp
  | true => simp [stays r member hit]

theorem find?_named {id : RevisionId} (named : id ∈ referenced env keep) :
    (withoutRevisions env (seedDrop env keep)).revisions.find? (fun r => r.revisionId = id) =
      env.revisions.find? fun r => r.revisionId = id := by
  refine find?_withoutRevisions fun r _ hit => ?_
  rw [of_decide_eq_true hit]
  exact not_dropped named

theorem liveRevisions_withoutRevisions (env : Environment) (drop : List RevisionId)
    (bundle : BundleDeployment) :
    liveRevisions (withoutRevisions env drop) bundle =
      (liveRevisions env bundle).filter fun r => r.revisionId ∉ drop := by
  simp only [liveRevisions, withoutRevisions]
  exact List.filter_comm _ _ _

theorem mem_deploymentPackIds {bundle : BundleDeployment} {pack : String} :
    pack ∈ env.deploymentPackIds bundle.deploymentId ↔
      ∃ r ∈ liveRevisions env bundle, pack ∈ packIds r :=
  List.mem_flatMap

theorem bundle_visited {ext : Externals} {bundle : BundleDeployment} (member : bundle ∈ env.bundles)
    (accepted : env.checkBundle ext bundle = .ok ()) :
    (withoutRevisions env (seedDrop env keep)).checkBundle ext bundle = .ok () := by
  obtain ⟨own, valid, current, listed⟩ := Environment.checkBundle_ok.mp accepted
  refine Environment.checkBundle_ok.mpr ⟨own, valid, ?_, ?_⟩
  · intro id inside
    have named : id ∈ referenced env keep :=
      List.mem_append_right _ (List.mem_flatMap.mpr ⟨bundle, member, inside⟩)
    have checked := current id inside
    rw [Environment.checkCurrentRevision] at checked ⊢
    rw [find?_named named]
    exact checked
  · by_cases unlisted :
        (withoutRevisions env (seedDrop env keep)).deploymentPackIds bundle.deploymentId = []
    · exact .inl unlisted
    right
    intro pack override
    have before : env.deploymentPackIds bundle.deploymentId ≠ [] := by
      obtain ⟨other, there⟩ := List.exists_mem_of_ne_nil _ unlisted
      obtain ⟨r, live, lists⟩ := mem_deploymentPackIds.mp there
      rw [liveRevisions_withoutRevisions] at live
      exact List.ne_nil_of_mem
        (mem_deploymentPackIds.mpr ⟨r, List.mem_of_mem_filter live, lists⟩)
    have here := mem_deploymentPackIds.mp (listed.resolve_left before pack override)
    have visited : bundle ∈ env.bundles.filter fun b => b.configOverrides.keys ≠ [] :=
      List.mem_filter.mpr ⟨member, decide_eq_true (List.ne_nil_of_mem override)⟩
    obtain ⟨r, live, lists, stays⟩ :=
      protectBundles_covers env _ (unreferenced env keep) visited override here
    refine mem_deploymentPackIds.mpr ⟨r, ?_, lists⟩
    rw [liveRevisions_withoutRevisions]
    exact List.mem_filter.mpr ⟨live, decide_eq_true stays⟩

theorem split_visited {split : TrafficSplit} (member : split ∈ env.trafficSplits)
    (accepted : env.checkSplit split = .ok ()) :
    (withoutRevisions env (seedDrop env keep)).checkSplit split = .ok () := by
  obtain ⟨own, valid, deployed, entries⟩ := Environment.checkSplit_ok.mp accepted
  refine Environment.checkSplit_ok.mpr ⟨own, valid, deployed, ?_⟩
  intro entry inside
  have named : entry.revisionId ∈ referenced env keep := by
    refine List.mem_append_left _ (List.mem_append_right _ ?_)
    exact List.mem_flatMap.mpr ⟨split, member, List.mem_map_of_mem inside⟩
  have checked := entries entry inside
  rw [Environment.checkSplitEntry] at checked ⊢
  rw [find?_named named]
  exact checked

theorem pruned_valid {ext : Externals} (valid : env.validate ext = .ok ()) :
    (withoutRevisions env (seedDrop env keep)).validate ext = .ok () := by
  obtain ⟨-, visited, -⟩ := Environment.validate_ok.mp valid
  refine Environment.validate_with_revisions valid ⟨?_, ?_, ?_⟩
  · intro revision member
    exact visited.revisions revision (List.mem_of_mem_filter member)
  · intro bundle member
    exact bundle_visited member (visited.bundles bundle member)
  · intro split member
    exact split_visited member (visited.splits split member)

theorem materialize_pruned (env : Environment) (keep : List RevisionId) :
    materializeRuntimeConfig (withoutRevisions env (seedDrop env keep)) =
      materializeRuntimeConfig env := by
  have blocks : ∀ split ∈ env.trafficSplits, ∀ entry ∈ split.entries,
      runtimeBlock (withoutRevisions env (seedDrop env keep)) split entry =
        runtimeBlock env split entry := by
    intro split member entry inside
    have named : entry.revisionId ∈ referenced env keep := by
      refine List.mem_append_left _ (List.mem_append_right _ ?_)
      exact List.mem_flatMap.mpr ⟨split, member, List.mem_map_of_mem inside⟩
    have same : joined (withoutRevisions env (seedDrop env keep)) split entry =
        joined env split entry := by
      refine find?_withoutRevisions fun r _ hit => ?_
      rw [(of_decide_eq_true hit).1]
      exact not_dropped named
    simp only [runtimeBlock, same]
  simp only [materializeRuntimeConfig, withoutRevisions, RuntimeConfig.mk.injEq, true_and]
  apply List.flatMap_congr
  intro split member
  exact List.map_congr_left (blocks split member)

end Valid

/-- The walk over the pruned environment, beside the walk over the whole one. -/
structure Trails (gone : List RevisionId) (first second : Protection) : Prop where
  drop : second.drop = first.drop.filter (· ∉ gone)
  covered : second.covered = first.covered

theorem trails_protectPack {gone : List RevisionId} {first second : Protection}
    (live : List Revision) (pack : String) (trails : Trails gone first second)
    (kept : gone ⊆ (protectPack live first pack).drop) :
    Trails gone (protectPack live first pack)
      (protectPack (live.filter fun r => r.revisionId ∉ gone) second pack) := by
  have same : (live.filter fun r => r.revisionId ∉ gone).filter (fun r => pack ∈ packIds r) =
      (live.filter fun r => pack ∈ packIds r).filter fun r => r.revisionId ∉ gone :=
    List.filter_comm _ _ _
  by_cases already : pack ∈ first.covered
  · have also : pack ∈ second.covered := by rw [trails.covered]; exact already
    rw [protectPack, protectPack, if_pos already, if_pos also]
    exact trails
  · have also : pack ∉ second.covered := by rw [trails.covered]; exact already
    rw [protectPack, if_neg already] at kept ⊢
    rw [protectPack, if_neg also, same]
    cases found : maxByKey (·.sequence.toNat) (live.filter fun r => pack ∈ packIds r) with
    | none =>
        rw [maxByKey_none.mp found]
        exact trails
    | some newest =>
        rw [found] at kept
        have stays : newest.revisionId ∉ gone := by
          intro dropped
          have left := (List.mem_filter.mp (kept dropped)).2
          exact of_decide_eq_true left rfl
        rw [maxByKey_filter found (decide_eq_true stays)]
        refine ⟨?_, congrArg (· ++ packIds newest) trails.covered⟩
        change second.drop.filter _ = (first.drop.filter _).filter _
        rw [trails.drop]
        exact List.filter_comm _ _ _

theorem trails_all {gone : List RevisionId} (live : List Revision) (packs : List String)
    {first second : Protection} (trails : Trails gone first second)
    (kept : gone ⊆ (packs.foldl (protectPack live) first).drop) :
    Trails gone (packs.foldl (protectPack live) first)
      (packs.foldl (protectPack (live.filter fun r => r.revisionId ∉ gone)) second) := by
  induction packs generalizing first second with
  | nil => exact trails
  | cons head tail ih =>
      have now : gone ⊆ (protectPack live first head).drop :=
        fun _ h => (protects_all live tail _).1 (kept h)
      exact ih (trails_protectPack live head trails now) kept

theorem trails_start {gone drop : List RevisionId} (live : List Revision) (kept : gone ⊆ drop) :
    Trails gone (protectionStart live drop)
      (protectionStart (live.filter fun r => r.revisionId ∉ gone) (drop.filter (· ∉ gone))) := by
  refine ⟨rfl, ?_⟩
  simp only [protectionStart, List.filter_filter]
  congr 1
  refine List.filter_congr fun r _ => ?_
  rw [Bool.eq_iff_iff]
  simp only [List.mem_filter, Bool.and_eq_true, decide_eq_true_eq, not_and, not_not]
  constructor
  · exact fun both dropped => both.2 (both.1 dropped)
  · exact fun stays => ⟨fun dropped => absurd dropped stays, fun dropped => stays (kept dropped)⟩

theorem protectBundles_again {env : Environment} {gone : List RevisionId}
    (bundles : List BundleDeployment) (drop : List RevisionId)
    (kept : gone ⊆ bundles.foldl (protectBundle env) drop) :
    bundles.foldl (protectBundle (withoutRevisions env gone)) (drop.filter (· ∉ gone)) =
      (bundles.foldl (protectBundle env) drop).filter (· ∉ gone) := by
  induction bundles generalizing drop with
  | nil => rfl
  | cons head tail ih =>
      have now : gone ⊆ protectBundle env drop head :=
        fun _ h => protectBundles_subset env tail _ (kept h)
      have start := trails_start (liveRevisions env head)
        fun _ h => protectBundle_subset env drop head (now h)
      have walked := (trails_all (liveRevisions env head) head.configOverrides.keys start now).drop
      have first : protectBundle (withoutRevisions env gone) (drop.filter (· ∉ gone)) head =
          (protectBundle env drop head).filter (· ∉ gone) := by
        rw [protectBundle, liveRevisions_withoutRevisions]
        exact walked
      rw [List.foldl_cons, List.foldl_cons, first]
      exact ih _ kept

theorem seedDrop_pruned (env : Environment) (keep : List RevisionId) :
    seedDrop (withoutRevisions env (seedDrop env keep)) keep = [] := by
  have left : unreferenced (withoutRevisions env (seedDrop env keep)) keep =
      (unreferenced env keep).filter (· ∉ seedDrop env keep) := by
    change ((env.revisions.filter fun r => r.revisionId ∉ seedDrop env keep).map
      (·.revisionId)).filter (· ∉ referenced env keep) = _
    have ids : (env.revisions.filter fun r => r.revisionId ∉ seedDrop env keep).map
        (·.revisionId) = (env.revisions.map (·.revisionId)).filter (· ∉ seedDrop env keep) := by
      rw [List.filter_map]
      rfl
    calc _ = ((env.revisions.map (·.revisionId)).filter (· ∉ seedDrop env keep)).filter
          (· ∉ referenced env keep) := by rw [ids]
      _ = (unreferenced env keep).filter (· ∉ seedDrop env keep) := List.filter_comm _ _ _
  have again := @protectBundles_again env (seedDrop env keep)
    (env.bundles.filter fun b => b.configOverrides.keys ≠ []) (unreferenced env keep)
    fun _ h => h
  calc seedDrop (withoutRevisions env (seedDrop env keep)) keep
      = (seedDrop env keep).filter (· ∉ seedDrop env keep) := by
        rw [seedDrop, left]
        exact again
    _ = [] := List.filter_eq_nil_iff.mpr fun id member => by simp [member]

/-- Something was to be dropped, and the whole environment was staged. -/
def FallsBack (ext : Externals) (env : Environment) (keep : List RevisionId) : Prop :=
  seedDrop env keep ≠ [] ∧ pruneForSeed ext env keep = .borrowed env

theorem withoutRevisions_nil (env : Environment) : withoutRevisions env [] = env := by
  simp [withoutRevisions]

theorem pruneForSeed_valid {ext : Externals} {env : Environment} (keep : List RevisionId)
    (valid : env.validate ext = .ok ()) :
    pruneForSeed ext env keep =
      if seedDrop env keep = [] then .borrowed env
      else .owned (withoutRevisions env (seedDrop env keep)) := by
  simp only [pruneForSeed, pruned_valid valid]

theorem asRef_pruneForSeed {ext : Externals} {env : Environment} (keep : List RevisionId)
    (valid : env.validate ext = .ok ()) :
    (pruneForSeed ext env keep).asRef = withoutRevisions env (seedDrop env keep) := by
  rw [pruneForSeed_valid keep valid]
  split
  · rename_i nothing
    rw [nothing, withoutRevisions_nil]
    rfl
  · rfl

/-- The seed of a valid environment is valid and serves the same. It differs in its
revisions only, keeps all that the caller, a split or a deployment names, and is not
pruned further. -/
theorem seed_serves_the_same (ext : Externals) (env : Environment) (keep : List RevisionId)
    (valid : env.validate ext = .ok ()) :
    let seed := (pruneForSeed ext env keep).asRef
    ¬ FallsBack ext env keep ∧ seed.validate ext = .ok () ∧
      materializeRuntimeConfig seed = materializeRuntimeConfig env ∧
      seed = { env with revisions := seed.revisions } ∧
      seed.revisions.Sublist env.revisions ∧
      (∀ r ∈ env.revisions,
        (r.revisionId ∈ keep ∨
          (∃ split ∈ env.trafficSplits, ∃ entry ∈ split.entries,
            entry.revisionId = r.revisionId) ∨
          ∃ bundle ∈ env.bundles, r.revisionId ∈ bundle.currentRevisions) →
        r ∈ seed.revisions) ∧
      (pruneForSeed ext seed keep).asRef = seed := by
  rw [asRef_pruneForSeed keep valid]
  have again : (pruneForSeed ext (withoutRevisions env (seedDrop env keep)) keep).asRef =
      withoutRevisions env (seedDrop env keep) := by
    rw [asRef_pruneForSeed keep (pruned_valid valid), seedDrop_pruned, withoutRevisions_nil]
  refine ⟨?_, pruned_valid valid, materialize_pruned env keep, rfl, List.filter_sublist, ?_, again⟩
  · rintro ⟨something, whole⟩
    rw [pruneForSeed_valid keep valid, if_neg something] at whole
    cases whole
  · intro r member named
    have kept : r.revisionId ∈ referenced env keep := by
      simp only [referenced, List.mem_append, List.mem_flatMap, List.mem_map]
      exact or_assoc.mpr named
    exact List.mem_filter.mpr ⟨member, decide_eq_true (not_dropped kept)⟩

def chatOverride : ConfigOverrides := ⟨[("chat", ⟨[("greeting", ⟨"1"⟩)], by decide⟩)], by decide⟩

/-- A copy of a revision that nothing routes to. -/
def unrouted (id : Ulid) (sequence : UInt64) (packs : List PackListEntry) (revision : Revision) :
    Revision :=
  { revision with revisionId := ⟨id⟩, sequence := sequence, packList := packs }

/-- Revision 7 is routed. Revisions 8 and 9 list the pack that the deployment
overrides, and 10 lists none. -/
def outgrown : Environment :=
  let env := (engine firstSplitJson noExternals).run localFresh (routedRun.take 4)
  { env with
    bundles := env.bundles.map fun bundle => { bundle with configOverrides := chatOverride }
    revisions := env.revisions.flatMap fun revision =>
      [revision, unrouted 8 2 [⟨⟨"chat"⟩, "1", "", none⟩] revision,
        unrouted 9 3 [⟨⟨"chat"⟩, "2", "", none⟩] revision, unrouted 10 4 [] revision] }

/-- The routed revision stays, and of the others the newest that lists the pack. -/
theorem outgrown_seed :
    (pruneForSeed noExternals outgrown []).asRef.revisions.map (·.revisionId) = [⟨7⟩, ⟨9⟩] ∧
      (pruneForSeed noExternals outgrown []).asRef.validate noExternals = .ok () ∧
      materializeRuntimeConfig (pruneForSeed noExternals outgrown []).asRef =
        materializeRuntimeConfig outgrown := by
  have valid : outgrown.validate noExternals = .ok () := by decide
  have kept := seed_serves_the_same noExternals outgrown [] valid
  exact ⟨by decide, kept.2.1, kept.2.2.1⟩

end GreenticDeployer.Local
