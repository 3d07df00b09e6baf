import GreenticDeployer.CloudRun.Service
import GreenticDeployer.Engine.Environments
import GreenticDeployer.Spec.Validate

/-!
# A traffic split on an ALB listener

The forward action of a listener mirrors the recorded split: one target group for each
entry, its weight the entry's basis points scaled down to the range of the API.
-/

set_option maxHeartbeats 200000

namespace GreenticDeployer.Aws

open Spec Lib
open CloudRun (DeployerError enforceSplitInvariants)

structure LoadBalancer where
  targetGroupArn : Option String
  deriving DecidableEq

structure TaskSet where
  externalId : Option String
  loadBalancers : List LoadBalancer
  deriving DecidableEq

abbrev DescribeTaskSetsOutput := List TaskSet

structure TargetGroupWeight where
  revisionId : RevisionId
  weightBps : UInt32
  deriving DecidableEq

structure TargetGroupTuple where
  targetGroupArn : String
  weight : Nat
  deriving DecidableEq

inductive ListenerError where
  | split (error : DeployerError)
  | unwarmed (revisionId : RevisionId)
  deriving DecidableEq

def taskSetExternalId (revisionId : RevisionId) : String := "gtc-rev-" ++ revisionId.toString

def findTaskSet (out : DescribeTaskSetsOutput) (externalId : String) : Option TaskSet :=
  out.find? fun taskSet => taskSet.externalId = some externalId

def boundTargetGroup (out : DescribeTaskSetsOutput) (externalId : String) : Option String :=
  (findTaskSet out externalId).bind fun taskSet =>
    taskSet.loadBalancers.findSome? (·.targetGroupArn)

def weightedTargetGroups (out : DescribeTaskSetsOutput) :
    List TargetGroupWeight → Except ListenerError (List (UInt32 × String))
  | [] => .ok []
  | weight :: rest =>
    match boundTargetGroup out (taskSetExternalId weight.revisionId) with
    | none => .error (.unwarmed weight.revisionId)
    | some arn => do
      let pairs ← weightedTargetGroups out rest
      .ok ((weight.weightBps, arn) :: pairs)

def elbWeight (weightBps : UInt32) : Nat := min (weightBps.toNat / 10) 999

def forwardAction (tuples : List (UInt32 × String)) : List TargetGroupTuple :=
  tuples.map fun pair => ⟨pair.2, elbWeight pair.1⟩

def applyListenerWeights (out : DescribeTaskSetsOutput) (weights : List TargetGroupWeight) :
    Except ListenerError (List TargetGroupTuple) := do
  let tuples ← weightedTargetGroups out weights
  .ok (forwardAction tuples)

def applyTrafficSplit (env : Environment) (deploymentId : DeploymentId)
    (out : DescribeTaskSetsOutput) : Except ListenerError (List TargetGroupTuple) := do
  let entries ← (enforceSplitInvariants env deploymentId).mapError .split
  applyListenerWeights out (entries.map fun entry => ⟨entry.revisionId, entry.weightBps⟩)

theorem elbWeight_le (weightBps : UInt32) : elbWeight weightBps ≤ 999 := Nat.min_le_right _ _

theorem elbWeight_mono {first second : UInt32} (le : first.toNat ≤ second.toNat) :
    elbWeight first ≤ elbWeight second := by
  have scaled : first.toNat / 10 ≤ second.toNat / 10 := Nat.div_le_div_right le
  simp only [elbWeight]
  omega

def Scales (weightBps : UInt32) : Prop := weightBps.toNat = 0 ∨ 10 ≤ weightBps.toNat

instance (weightBps : UInt32) : Decidable (Scales weightBps) :=
  inferInstanceAs (Decidable (_ ∨ _))

theorem elbWeight_pos_iff (weightBps : UInt32) :
    (0 < elbWeight weightBps ↔ 0 < weightBps.toNat) ↔ Scales weightBps := by
  simp only [elbWeight, Scales]
  omega

structure Mirrors (out : DescribeTaskSetsOutput) (entries : List TrafficSplitEntry)
    (tuples : List TargetGroupTuple) : Prop where
  each : List.Forall₂ (fun entry tuple =>
    boundTargetGroup out (taskSetExternalId entry.revisionId) = some tuple.targetGroupArn ∧
      tuple.weight ≤ 999 ∧ (0 < tuple.weight ↔ 0 < entry.weightBps.toNat)) entries tuples
  carries : ∃ tuple ∈ tuples, 0 < tuple.weight
  ordered : ∀ first ∈ entries.zip tuples, ∀ second ∈ entries.zip tuples,
    first.1.weightBps.toNat ≤ second.1.weightBps.toNat → first.2.weight ≤ second.2.weight

def Renders (out : DescribeTaskSetsOutput) (entry : TrafficSplitEntry)
    (tuple : TargetGroupTuple) : Prop :=
  boundTargetGroup out (taskSetExternalId entry.revisionId) = some tuple.targetGroupArn ∧
    tuple.weight = elbWeight entry.weightBps

variable {out : DescribeTaskSetsOutput} {entries : List TrafficSplitEntry}
variable {tuples : List TargetGroupTuple}

theorem applyListenerWeights_ok (bound : ∀ entry ∈ entries,
      (boundTargetGroup out (taskSetExternalId entry.revisionId)).isSome = true) :
    ∃ tuples, applyListenerWeights out
        (entries.map fun entry => ⟨entry.revisionId, entry.weightBps⟩) = .ok tuples ∧
      List.Forall₂ (Renders out) entries tuples := by
  induction entries with
  | nil => exact ⟨[], rfl, .nil⟩
  | cons entry rest ih =>
      obtain ⟨tuples, rendered, each⟩ :=
        ih fun other member => bound other (List.mem_cons_of_mem _ member)
      obtain ⟨arn, warmed⟩ := Option.isSome_iff_exists.mp (bound entry List.mem_cons_self)
      obtain ⟨pairs, weighted, forwarded⟩ := bind_ok rendered
      cases forwarded
      refine ⟨⟨arn, elbWeight entry.weightBps⟩ :: forwardAction pairs, ?_, .cons ⟨warmed, rfl⟩ each⟩
      simp only [List.map_cons, applyListenerWeights, weightedTargetGroups, warmed, weighted]
      rfl

theorem renders_ordered (each : List.Forall₂ (Renders out) entries tuples) :
    ∀ first ∈ entries.zip tuples, ∀ second ∈ entries.zip tuples,
      first.1.weightBps.toNat ≤ second.1.weightBps.toNat →
      first.2.weight ≤ second.2.weight := by
  intro first among second inside le
  have rendered : ∀ pair ∈ entries.zip tuples, pair.2.weight = elbWeight pair.1.weightBps :=
    fun pair member => ((List.forall₂_iff_zip.mp each).2 member).2
  rw [rendered first among, rendered second inside]
  exact elbWeight_mono le

theorem some_share (total : (entries.map (·.weightBps.toNat)).sum = 10000) :
    ∃ entry ∈ entries, 0 < entry.weightBps.toNat := by
  by_contra none_
  push Not at none_
  have zero : (entries.map (·.weightBps.toNat)).sum = 0 := by
    refine List.sum_eq_zero fun weight member => ?_
    obtain ⟨entry, among, rfl⟩ := List.mem_map.mp member
    exact Nat.le_zero.mp (none_ entry among)
  omega

theorem mirrors_iff (each : List.Forall₂ (Renders out) entries tuples)
    (total : (entries.map (·.weightBps.toNat)).sum = 10000) :
    Mirrors out entries tuples ↔ ∀ entry ∈ entries, Scales entry.weightBps := by
  constructor
  · intro mirrors entry member
    obtain ⟨position, found⟩ := List.mem_iff_getElem.mp member
    obtain ⟨bound, rfl⟩ := found
    have matched : position < tuples.length := each.length_eq ▸ bound
    have kept := (mirrors.each.get bound matched).2.2
    rw [(each.get bound matched).2] at kept
    exact (elbWeight_pos_iff _).mp kept
  · intro scales
    have kept : ∀ pair ∈ entries.zip tuples, 0 < pair.2.weight ↔ 0 < pair.1.weightBps.toNat := by
      intro pair member
      rw [((List.forall₂_iff_zip.mp each).2 member).2]
      exact (elbWeight_pos_iff _).mpr (scales _ (List.of_mem_zip member).1)
    refine ⟨?_, ?_, renders_ordered each⟩
    · refine List.forall₂_iff_zip.mpr ⟨each.length_eq, fun member => ?_⟩
      have rendered := (List.forall₂_iff_zip.mp each).2 member
      refine ⟨rendered.1, ?_, kept _ member⟩
      rw [rendered.2]
      exact elbWeight_le _
    · obtain ⟨entry, member, share⟩ := some_share total
      obtain ⟨position, bound, rfl⟩ := List.mem_iff_getElem.mp member
      have matched : position < tuples.length := each.length_eq ▸ bound
      have zipped : (entries[position], tuples[position]) ∈ entries.zip tuples := by
        refine List.mem_iff_getElem.mpr ⟨position, ?_, List.getElem_zip⟩
        rw [List.length_zip]
        omega
      exact ⟨tuples[position], List.getElem_mem _, (kept _ zipped).mpr share⟩

/-- The listener of a recorded split whose revisions are all warmed: its action mirrors the
split exactly where no revision has a share below ten basis points. -/
theorem listener_mirrors_split_iff (env : Environment) (deploymentId : DeploymentId)
    (out : DescribeTaskSetsOutput) (split : TrafficSplit)
    (recorded : env.trafficSplits.find? (fun s => s.deploymentId = deploymentId) = some split)
    (admitted : split.validate = .ok ())
    (warmed : ∀ entry ∈ split.entries,
      (boundTargetGroup out (taskSetExternalId entry.revisionId)).isSome = true) :
    ∃ tuples, applyTrafficSplit env deploymentId out = .ok tuples ∧
      (Mirrors out split.entries tuples ↔ ∀ entry ∈ split.entries, Scales entry.weightBps) := by
  have total := (TrafficSplit.validate_ok admitted).2
  obtain ⟨tuples, applied, each⟩ := applyListenerWeights_ok warmed
  refine ⟨tuples, ?_, mirrors_iff each total⟩
  have enforced : enforceSplitInvariants env deploymentId = .ok split.entries := by
    simp only [enforceSplitInvariants, recorded, total, ne_eq, not_true_eq_false, if_false]
  unfold applyTrafficSplit
  rw [enforced]
  exact applied

def pairedTaskSets : DescribeTaskSetsOutput :=
  [⟨some (taskSetExternalId ⟨1⟩), [⟨some "arn-blue"⟩]⟩,
    ⟨some (taskSetExternalId ⟨2⟩), [⟨some "arn-green"⟩]⟩]

def pairedSplit (first second : UInt32) : TrafficSplit where
  schema := ⟨SchemaVersion.trafficSplitV1⟩
  envId := ⟨"local"⟩
  deploymentId := ⟨1⟩
  bundleId := ⟨"shop"⟩
  generation := 0
  entries := [⟨⟨1⟩, first⟩, ⟨⟨2⟩, second⟩]
  updatedAt := 0
  updatedBy := "op"
  idempotencyKey := "key"
  authorizationRef := "auth.json"
  previousSplitRef := none

def splitEnvironment (split : TrafficSplit) : Environment :=
  { Engine.freshEnvironment ⟨"local"⟩ "local" ⟨⟨"local"⟩, none, none, none, none, none, none⟩
      ⟨false, none⟩ ⟨none, none⟩ ⟨.unknown, none, none⟩ with trafficSplits := [split] }

/-- A share of ten basis points is kept. -/
theorem small_share_listener_mirrors :
    ∃ tuples, applyTrafficSplit (splitEnvironment (pairedSplit 9990 10)) ⟨1⟩ pairedTaskSets =
        .ok tuples ∧
      (Mirrors pairedTaskSets (pairedSplit 9990 10).entries tuples ↔
        ∀ entry ∈ (pairedSplit 9990 10).entries, Scales entry.weightBps) :=
  listener_mirrors_split_iff (splitEnvironment (pairedSplit 9990 10)) ⟨1⟩ pairedTaskSets
    (pairedSplit 9990 10) (by decide) (by decide) (by decide)

/-- A share of five basis points is cut off. -/
theorem tiny_share_listener_cuts :
    ¬ ∀ (env : Environment) (deploymentId : DeploymentId) (out : DescribeTaskSetsOutput)
      (split : TrafficSplit),
      env.trafficSplits.find? (fun s => s.deploymentId = deploymentId) = some split →
      split.validate = .ok () → (split.entries.map (·.revisionId)).Nodup →
      (∀ entry ∈ split.entries,
        (boundTargetGroup out (taskSetExternalId entry.revisionId)).isSome = true) →
      ∃ tuples, applyTrafficSplit env deploymentId out = .ok tuples ∧
        Mirrors out split.entries tuples := by
  intro claim
  obtain ⟨tuples, applied, mirrors⟩ := claim (splitEnvironment (pairedSplit 9995 5)) ⟨1⟩
    pairedTaskSets (pairedSplit 9995 5) (by decide) (by decide)
    (by decide) (by decide)
  have rendered : applyTrafficSplit (splitEnvironment (pairedSplit 9995 5)) ⟨1⟩ pairedTaskSets =
      .ok [⟨"arn-blue", 999⟩, ⟨"arn-green", 0⟩] := by decide
  cases rendered.symm.trans applied
  have kept := mirrors.each
  simp [pairedSplit] at kept

end GreenticDeployer.Aws
