import GreenticDeployer.Lib.Results
import Mathlib.Algebra.Order.BigOperators.Group.List
import Mathlib.Data.UInt
import Mathlib.Tactic.Ring

/-!
# The weights of a manifest's revisions

A bundle entry with several revisions declares a weight for each of them, as a percentage
or in basis points, or leaves all of them to an equal split. Products and sums are those of
32-bit words.
-/

set_option maxHeartbeats 200000

namespace GreenticDeployer.Apply

open Lib

structure ManifestRevision where
  weightPercent : Option UInt32
  weightBps : Option UInt32
  deriving DecidableEq

def fullTrafficBps : UInt32 := 10000

inductive WeightError where
  | mixed
  | sum (sum : UInt32)
  deriving DecidableEq

namespace ManifestRevision

def hasWeight (revision : ManifestRevision) : Bool :=
  revision.weightPercent.isSome || revision.weightBps.isSome

/-- One per cent is a hundred basis points. -/
def effectiveBpsSingle (revision : ManifestRevision) : Option UInt32 :=
  match revision.weightPercent with
  | some percent => some (percent * 100)
  | none => revision.weightBps

def declaredBps (revision : ManifestRevision) : Nat :=
  match revision.weightPercent with
  | some percent => percent.toNat * 100
  | none => (revision.weightBps.map UInt32.toNat).getD 0

end ManifestRevision

open ManifestRevision

def declaredSum (revisions : List ManifestRevision) : UInt32 :=
  (revisions.map fun revision => revision.effectiveBpsSingle.getD 0).sum

def validateRevisionWeights (revisions : List ManifestRevision) : Except WeightError Unit := do
  ensure (revisions.all hasWeight = true ∨ revisions.all (!hasWeight ·) = true) .mixed
  if revisions.all hasWeight then
    ensure (declaredSum revisions = fullTrafficBps) (.sum (declaredSum revisions))

/-- `n` equal shares, the first with the remainder. -/
def equalSplit (n : UInt32) : List UInt32 :=
  let base := fullTrafficBps / n
  let remainder := fullTrafficBps - base * n
  (List.range n.toNat).map fun i => if i = 0 then base + remainder else base

/-- The effective weights, nothing where an assertion fails. The length is cast to 32 bits. -/
def computeEffectiveWeightsBps (revisions : List ManifestRevision) : Option (List UInt32) :=
  let n := UInt32.ofNat revisions.length
  if n = 0 then none
  else
    match revisions with
    | [] => none
    | first :: _ =>
      if first.weightPercent = none ∧ first.weightBps = none then some (equalSplit n)
      else revisions.mapM effectiveBpsSingle

theorem toNat_sum (words : List UInt32) :
    words.sum.toNat = (words.map UInt32.toNat).sum % 2 ^ 32 := by
  induction words with
  | nil => rfl
  | cons word rest ih =>
      simp only [List.sum_cons, List.map_cons, UInt32.toNat_add, ih]
      omega

theorem effective_toNat {revision : ManifestRevision} {bps : UInt32}
    (effective : revision.effectiveBpsSingle = some bps) :
    bps.toNat = revision.declaredBps % 2 ^ 32 := by
  unfold effectiveBpsSingle at effective
  unfold declaredBps
  cases percent : revision.weightPercent with
  | some value =>
      rw [percent] at effective
      cases effective
      exact UInt32.toNat_mul value 100
  | none =>
      rw [percent] at effective
      simp only [effective, Option.map_some, Option.getD_some]
      exact (Nat.mod_eq_of_lt bps.toNat_lt).symm

theorem effective_of_hasWeight {revision : ManifestRevision} (has : revision.hasWeight = true) :
    ∃ bps, revision.effectiveBpsSingle = some bps := by
  unfold hasWeight at has
  unfold effectiveBpsSingle
  cases percent : revision.weightPercent with
  | some value => exact ⟨value * 100, rfl⟩
  | none =>
      rw [percent] at has
      exact Option.isSome_iff_exists.mp has

variable {revisions : List ManifestRevision}

/-- The weights of a list that declares them all, each the declared one cut to 32 bits. -/
theorem effective_weights (all : revisions.all hasWeight = true) :
    ∃ weights, revisions.mapM effectiveBpsSingle = some weights ∧
      weights = revisions.map (fun revision => revision.effectiveBpsSingle.getD 0) ∧
      weights.map UInt32.toNat = revisions.map fun revision => revision.declaredBps % 2 ^ 32 := by
  induction revisions with
  | nil => exact ⟨[], rfl, rfl, rfl⟩
  | cons revision rest ih =>
      simp only [List.all_cons, Bool.and_eq_true] at all
      obtain ⟨weights, mapped, same, words⟩ := ih all.2
      obtain ⟨bps, effective⟩ := effective_of_hasWeight all.1
      refine ⟨bps :: weights, ?_, ?_, ?_⟩
      · simp only [List.mapM_cons, effective, mapped]
        rfl
      · simp only [List.map_cons, effective, Option.getD_some, same]
      · simp only [List.map_cons, effective_toNat effective, words]

theorem declaredSum_toNat (all : revisions.all hasWeight = true) :
    (declaredSum revisions).toNat = (revisions.map declaredBps).sum % 2 ^ 32 := by
  obtain ⟨weights, _, same, words⟩ := effective_weights all
  calc (declaredSum revisions).toNat = weights.sum.toNat := by rw [declaredSum, same]
    _ = (revisions.map fun revision => revision.declaredBps % 2 ^ 32).sum % 2 ^ 32 := by
        rw [toNat_sum, words]
    _ = (revisions.map declaredBps).sum % 2 ^ 32 := by
        rw [List.sum_nat_mod (revisions.map declaredBps), List.map_map]
        rfl

theorem declaredBps_le_sum {revision : ManifestRevision} (member : revision ∈ revisions) :
    revision.declaredBps ≤ (revisions.map declaredBps).sum :=
  List.single_le_sum (fun _ _ => Nat.zero_le _) _ (List.mem_map_of_mem member)

theorem effective_weights_exact (all : revisions.all hasWeight = true)
    (fits : (revisions.map declaredBps).sum < 2 ^ 32) :
    ∃ weights, revisions.mapM effectiveBpsSingle = some weights ∧
      weights.map UInt32.toNat = revisions.map declaredBps := by
  obtain ⟨weights, mapped, _, words⟩ := effective_weights all
  refine ⟨weights, mapped, words.trans (List.map_congr_left fun revision member => ?_)⟩
  have below := declaredBps_le_sum member
  exact Nat.mod_eq_of_lt (by omega)

theorem equalSplit_toNat {n : UInt32} (some_ : 0 < n.toNat) :
    (equalSplit n).map UInt32.toNat =
      (10000 / n.toNat + 10000 % n.toNat) :: List.replicate (n.toNat - 1) (10000 / n.toNat) := by
  have base : (fullTrafficBps / n).toNat = 10000 / n.toNat := UInt32.toNat_div _ _
  have divides := Nat.div_add_mod 10000 n.toNat
  have product : (fullTrafficBps / n * n).toNat = 10000 / n.toNat * n.toNat := by
    rw [UInt32.toNat_mul, base, Nat.mul_comm]
    exact Nat.mod_eq_of_lt (by omega)
  have remainder : (fullTrafficBps - fullTrafficBps / n * n).toNat = 10000 % n.toNat := by
    rw [UInt32.toNat_sub_of_le, product]
    · show 10000 - _ = _
      rw [Nat.mul_comm]
      omega
    · rw [UInt32.le_iff_toNat_le, product, Nat.mul_comm]
      show _ ≤ 10000
      omega
  have first : (fullTrafficBps / n + (fullTrafficBps - fullTrafficBps / n * n)).toNat =
      10000 / n.toNat + 10000 % n.toNat := by
    rw [UInt32.toNat_add, base, remainder]
    have small : 10000 / n.toNat ≤ 10000 := Nat.div_le_self _ _
    have rest : 10000 % n.toNat ≤ 10000 := Nat.mod_le _ _
    exact Nat.mod_eq_of_lt (by omega)
  obtain ⟨m, count⟩ : ∃ m, n.toNat = m + 1 := ⟨n.toNat - 1, by omega⟩
  simp only [equalSplit, count, List.range_succ_eq_map, List.map_cons, List.map_map, if_true]
  rw [← count, first]
  refine congrArg _ (List.eq_replicate_iff.mpr ⟨by simp [count], fun weight member => ?_⟩)
  obtain ⟨i, _, rfl⟩ := List.mem_map.mp member
  simpa using base

/-- No product and no partial sum of an accepted list leaves its word, and its weights are
one for each revision and add up to the whole. -/
structure ExactWeights (revisions : List ManifestRevision) : Prop where
  products : ∀ revision ∈ revisions, revision.declaredBps < 2 ^ 32
  sums : (revisions.map declaredBps).sum < 2 ^ 32
  weights : ∃ weights, computeEffectiveWeightsBps revisions = some weights ∧
    weights.length = revisions.length ∧ (∀ weight ∈ weights, weight.toNat ≤ 10000) ∧
    (weights.map UInt32.toNat).sum = 10000

/-- The declared weights stay below the width of a word, and so does the number of
revisions that share equally; the cast of a declared list's length is not zero. -/
def WithinWidth (revisions : List ManifestRevision) : Prop :=
  if revisions.all hasWeight then
    (revisions.map declaredBps).sum < 2 ^ 32 ∧ revisions.length % 2 ^ 32 ≠ 0
  else revisions.length < 2 ^ 32

instance (revisions : List ManifestRevision) : Decidable (WithinWidth revisions) :=
  inferInstanceAs (Decidable (if revisions.all hasWeight then _ ∧ _ else _))

theorem ofNat_length_eq_zero (length : Nat) : UInt32.ofNat length = 0 ↔ length % 2 ^ 32 = 0 := by
  rw [← UInt32.toNat_inj, UInt32.toNat_ofNat']
  rfl

theorem compute_declared {first : ManifestRevision} {rest : List ManifestRevision}
    (all : (first :: rest).all hasWeight = true) :
    computeEffectiveWeightsBps (first :: rest) =
      if (first :: rest).length % 2 ^ 32 = 0 then none
      else (first :: rest).mapM effectiveBpsSingle := by
  have has : ¬ (first.weightPercent = none ∧ first.weightBps = none) := by
    intro unset
    simp [hasWeight, unset] at all
  simp only [computeEffectiveWeightsBps, ofNat_length_eq_zero, if_neg has]

theorem compute_equal {first : ManifestRevision} {rest : List ManifestRevision}
    (unset : first.hasWeight = false) :
    computeEffectiveWeightsBps (first :: rest) =
      if (first :: rest).length % 2 ^ 32 = 0 then none
      else some (equalSplit (UInt32.ofNat (first :: rest).length)) := by
  have none_ : first.weightPercent = none ∧ first.weightBps = none := by
    simpa [hasWeight] using unset
  simp only [computeEffectiveWeightsBps, ofNat_length_eq_zero, if_pos none_]

theorem declared_exact_iff {first : ManifestRevision} {rest : List ManifestRevision}
    (all : (first :: rest).all hasWeight = true)
    (whole : declaredSum (first :: rest) = fullTrafficBps) :
    ExactWeights (first :: rest) ↔ ((first :: rest).map declaredBps).sum < 2 ^ 32 ∧
      (first :: rest).length % 2 ^ 32 ≠ 0 := by
  constructor
  · intro exact_
    refine ⟨exact_.sums, fun zero => ?_⟩
    obtain ⟨weights, computed, _⟩ := exact_.weights
    rw [compute_declared all, if_pos zero] at computed
    cases computed
  · rintro ⟨fits, counted⟩
    have total : ((first :: rest).map declaredBps).sum = 10000 := by
      have words := declaredSum_toNat all
      rw [whole, Nat.mod_eq_of_lt fits] at words
      exact words.symm
    obtain ⟨weights, mapped, same⟩ := effective_weights_exact all fits
    refine ⟨fun revision member => ?_, fits, weights, ?_, ?_, ?_, ?_⟩
    · have below := declaredBps_le_sum member
      omega
    · rw [compute_declared all, if_neg counted, mapped]
    · simpa using congrArg List.length same
    · intro weight member
      have among : weight.toNat ∈ (first :: rest).map declaredBps :=
        same ▸ List.mem_map_of_mem member
      rw [← total]
      exact List.single_le_sum (fun _ _ => Nat.zero_le _) _ among
    · rw [same, total]

theorem equalSplit_sum {n : UInt32} (some_ : 0 < n.toNat) :
    ((equalSplit n).map UInt32.toNat).sum = 10000 := by
  rw [equalSplit_toNat some_]
  have divides := Nat.div_add_mod 10000 n.toNat
  obtain ⟨m, count⟩ : ∃ m, n.toNat = m + 1 := ⟨n.toNat - 1, by omega⟩
  rw [count] at divides ⊢
  simp only [List.sum_cons, List.sum_replicate_nat, Nat.add_sub_cancel]
  calc 10000 / (m + 1) + 10000 % (m + 1) + m * (10000 / (m + 1))
      = (m + 1) * (10000 / (m + 1)) + 10000 % (m + 1) := by ring
    _ = 10000 := divides

theorem equal_exact_iff {first : ManifestRevision} {rest : List ManifestRevision}
    (unset : (first :: rest).all (!hasWeight ·) = true) :
    ExactWeights (first :: rest) ↔ (first :: rest).length < 2 ^ 32 := by
  have none_ : first.hasWeight = false := by
    simp only [List.all_cons, Bool.and_eq_true, Bool.not_eq_true'] at unset
    exact unset.1
  have zero : ∀ revision ∈ first :: rest, revision.declaredBps = 0 := by
    intro revision member
    have has : revision.hasWeight = false := by
      simpa using List.all_eq_true.mp unset revision member
    simp only [hasWeight, Bool.or_eq_false_iff, Option.isSome_eq_false_iff,
      Option.isNone_iff_eq_none] at has
    simp [declaredBps, has]
  have total : ((first :: rest).map declaredBps).sum = 0 :=
    List.sum_eq_zero fun bps member => by
      obtain ⟨revision, among, rfl⟩ := List.mem_map.mp member
      exact zero revision among
  have count : (equalSplit (UInt32.ofNat (first :: rest).length)).length =
      (first :: rest).length % 2 ^ 32 := by
    simp [equalSplit]
  constructor
  · intro exact_
    obtain ⟨weights, computed, long, _⟩ := exact_.weights
    rw [compute_equal none_] at computed
    split at computed
    · cases computed
    · cases computed
      rw [count] at long
      rw [← long]
      exact Nat.mod_lt _ (by decide)
  · intro short
    have length := Nat.mod_eq_of_lt short
    have some_ : 0 < (first :: rest).length := Nat.succ_pos _
    have size : 0 < (UInt32.ofNat (first :: rest).length).toNat := by
      rw [UInt32.toNat_ofNat', length]
      exact some_
    refine ⟨fun revision member => by rw [zero revision member]; decide, by rw [total]; decide,
      _, ?_, count.trans length, ?_, equalSplit_sum size⟩
    · rw [compute_equal none_, if_neg (by rw [length]; omega)]
    · intro weight member
      rw [← equalSplit_sum size]
      exact List.single_le_sum (fun _ _ => Nat.zero_le _) _ (List.mem_map_of_mem member)

/-- An accepted list of weights is exact where its sums stay within a word. -/
theorem manifest_weights_exact_iff (revisions : List ManifestRevision)
    (nonempty : revisions ≠ []) (accepted : validateRevisionWeights revisions = .ok ()) :
    ExactWeights revisions ↔ WithinWidth revisions := by
  obtain ⟨_, consistent, weighed⟩ := bind_ok accepted
  have consistent := ensure_ok consistent
  cases revisions with
  | nil => exact absurd rfl nonempty
  | cons first rest =>
      unfold WithinWidth
      by_cases all : (first :: rest).all hasWeight = true
      · rw [if_pos all] at weighed ⊢
        exact declared_exact_iff all (ensure_ok weighed)
      · rw [if_neg all]
        exact equal_exact_iff (consistent.resolve_left all)

/-- Two percentages in the ordinary range. -/
theorem percentages_exact :
    ExactWeights [⟨some 70, none⟩, ⟨some 30, none⟩] ↔
      WithinWidth [⟨some 70, none⟩, ⟨some 30, none⟩] :=
  manifest_weights_exact_iff [⟨some 70, none⟩, ⟨some 30, none⟩] (by decide) (by decide)

/-- A percentage whose product comes to the whole only modulo the width of a word. -/
theorem wrapped_percentage_accepted :
    ¬ ∀ revisions : List ManifestRevision, revisions ≠ [] →
      validateRevisionWeights revisions = .ok () → ExactWeights revisions := by
  intro claim
  have exact_ := claim [⟨some 1073741924, none⟩, ⟨some 0, none⟩] (by decide) (by decide)
  exact absurd exact_.sums (by decide)

end GreenticDeployer.Apply
