import GreenticDeployer.Lib.KeySort
import GreenticDeployer.Engine.Routing

/-!
# Entries up to order

The replay check of a traffic call sorts both entry lists by the printed
revision id alone. The sort is stable, so entries of one id keep their order.
-/

set_option maxHeartbeats 200000

namespace GreenticDeployer.Engine

open Spec Lib

theorem eq_of_digits {width n m : Nat} (left : n < 32 ^ width) (right : m < 32 ^ width)
    (same : ∀ place < width, n / 32 ^ place % 32 = m / 32 ^ place % 32) : n = m := by
  induction width generalizing n m with
  | zero => omega
  | succ width ih =>
      have last : n % 32 = m % 32 := by simpa using same 0 (by omega)
      have upper : n / 32 = m / 32 := by
        apply ih
        · rw [Nat.pow_succ] at left
          omega
        · rw [Nat.pow_succ] at right
          omega
        · intro place inside
          have digit := same (place + 1) (by omega)
          rwa [Nat.pow_succ', ← Nat.div_div_eq_div_mul, ← Nat.div_div_eq_div_mul] at digit
      omega

theorem crockford_inj {a b : Nat} (left : a < 32) (right : b < 32)
    (same : crockford.getD a '0' = crockford.getD b '0') : a = b := by
  have table : ∀ x < 32, ∀ y < 32, crockford.getD x '0' = crockford.getD y '0' → x = y := by
    decide
  exact table a left b right same

theorem toChars_inj {a b : Ulid} (same : a.toChars = b.toChars) : a = b := by
  apply BitVec.eq_of_toNat_eq
  have wide : (2 : Nat) ^ 128 ≤ 32 ^ 26 := by decide
  have left : a.toNat < 32 ^ 26 := lt_of_lt_of_le a.isLt wide
  have right : b.toNat < 32 ^ 26 := lt_of_lt_of_le b.isLt wide
  apply eq_of_digits left right
  intro place inside
  have symbols := List.map_inj_left.mp same (25 - place) (by simp; omega)
  have digit := crockford_inj (Nat.mod_lt _ (by decide)) (Nat.mod_lt _ (by decide)) symbols
  have position : 25 - (25 - place) = place := by omega
  rwa [position] at digit

theorem RevisionId.toString_inj {a b : RevisionId} : a.toString = b.toString ↔ a = b := by
  constructor
  · intro same
    have chars := toChars_inj (String.ofList_injective same)
    cases a
    cases b
    exact congrArg RevisionId.mk chars
  · intro same
    rw [same]

def ofRevision (id : RevisionId) (entries : List TrafficSplitEntry) : List TrafficSplitEntry :=
  entries.filter fun entry => entry.revisionId = id

def SameOrder (a b : List TrafficSplitEntry) : Prop := ∀ id, ofRevision id a = ofRevision id b

theorem withKey_sameOrder {a b : List TrafficSplitEntry} :
    (∀ k, withKey (fun entry : TrafficSplitEntry => entry.revisionId.toString) k a =
      withKey (fun entry : TrafficSplitEntry => entry.revisionId.toString) k b) ↔
      SameOrder a b := by
  have printed : ∀ (id : RevisionId) (entries : List TrafficSplitEntry),
      withKey (fun entry : TrafficSplitEntry => entry.revisionId.toString) id.toString entries =
        ofRevision id entries := by
    intro id entries
    simp only [withKey, ofRevision, RevisionId.toString_inj]
  constructor
  · intro agree id
    rw [← printed, ← printed, agree]
  · intro same k
    by_cases named : ∃ id : RevisionId, id.toString = k
    · obtain ⟨id, rfl⟩ := named
      rw [printed, printed, same]
    · have none : ∀ entries : List TrafficSplitEntry,
          withKey (fun entry : TrafficSplitEntry => entry.revisionId.toString) k entries = [] := by
        intro entries
        apply List.eq_nil_iff_forall_not_mem.mpr
        intro entry member
        exact named ⟨entry.revisionId, (mem_withKey.mp member).2⟩
      rw [none, none]

theorem SameOrder.perm {a b : List TrafficSplitEntry} (same : SameOrder a b) : a.Perm b :=
  perm_of_withKey (withKey_sameOrder.mpr same)

theorem entriesMatch_iff {a b : List TrafficSplitEntry} :
    entriesMatch a b = true ↔ SameOrder a b := by
  let pair := fun entry : TrafficSplitEntry => (entry.revisionId, entry.weightBps)
  have injective : Function.Injective pair := by
    intro x y same
    cases x
    cases y
    simpa [pair] using same
  have paired : ∀ k (entries : List TrafficSplitEntry),
      withKey (fun entry : RevisionId × UInt32 => entry.1.toString) k (entries.map pair) =
        (withKey (fun entry : TrafficSplitEntry => entry.revisionId.toString) k entries).map
          pair := by
    intro k entries
    simp only [withKey, List.filter_map]
    rfl
  have sorted : (a.map pair).insertionSort (fun x y => x.1.toString ≤ y.1.toString) =
      (b.map pair).insertionSort (fun x y => x.1.toString ≤ y.1.toString) ↔ SameOrder a b := by
    rw [← withKey_sameOrder]
    apply Iff.trans (insertionSort_eq_iff fun _ _ => .rfl)
    apply forall_congr'
    intro k
    rw [paired, paired]
    exact (List.map_injective_iff.mpr injective).eq_iff
  simp only [entriesMatch, decide_eq_true_eq]
  constructor
  · intro matched
    exact sorted.mp matched.2
  · intro same
    exact ⟨same.perm.length_eq, sorted.mpr same⟩

theorem sameOrder_of_distinct {a b : List TrafficSplitEntry}
    (distinct : (a.map (·.revisionId)).Nodup) (reordered : a.Perm b) : SameOrder a b := by
  intro id
  have single : (ofRevision id a).length ≤ 1 := by
    have counted := List.nodup_iff_count_le_one.mp distinct id
    rwa [List.count, List.countP_map, List.countP_eq_length_filter] at counted
  have routed : (ofRevision id a).Perm (ofRevision id b) := reordered.filter _
  match shape : ofRevision id a with
  | [] =>
      rw [shape] at routed
      exact routed.nil_eq
  | [entry] =>
      rw [shape] at routed
      exact List.singleton_perm.mp routed
  | first :: second :: rest =>
      rw [shape] at single
      simp at single

/-- The check accepts the reorderings of a list, and nothing else, exactly when
each reordering in question leaves the entries of every revision in order. -/
theorem entriesMatch_perm_iff (a b : List TrafficSplitEntry) :
    (entriesMatch a b = true ↔ a.Perm b) ↔
      (a.Perm b → ∀ id, ofRevision id a = ofRevision id b) := by
  rw [entriesMatch_iff]
  constructor
  · intro decides reordered
    exact decides.mpr reordered
  · intro ordered
    exact ⟨SameOrder.perm, ordered⟩

/-- One revision at two weights, the other way round in a second split. -/
def twoWeights : TrafficSplit :=
  { firstSplit with entries := [⟨⟨7⟩, 4000⟩, ⟨⟨7⟩, 6000⟩] }

def twoWeightsSwapped : TrafficSplit :=
  { firstSplit with entries := [⟨⟨7⟩, 6000⟩, ⟨⟨7⟩, 4000⟩] }

theorem entriesMatch_misses_permutation :
    ¬ ∀ a b : TrafficSplit, a.validate = .ok () → b.validate = .ok () →
      (entriesMatch a.entries b.entries = true ↔ a.entries.Perm b.entries) := by
  intro decides_all
  have decides := decides_all twoWeights twoWeightsSwapped (by decide) (by decide)
  have reordered : twoWeights.entries.Perm twoWeightsSwapped.entries := List.Perm.swap _ _ _
  have ordered := entriesMatch_iff.mp (decides.mpr reordered) ⟨7⟩
  revert ordered
  decide

end GreenticDeployer.Engine
