import Mathlib.Data.List.Sort

/-!
# Stable sorts by a key

A stable sort keeps, for each key, the elements with that key in their order.
Nothing else of a list survives the sort, so two lists sort to one list exactly
when they agree key by key.
-/

set_option maxHeartbeats 200000

namespace GreenticDeployer.Lib

variable {α κ : Type*} [LinearOrder κ]

def withKey (key : α → κ) (k : κ) (xs : List α) : List α := xs.filter fun x => key x = k

theorem mem_withKey {key : α → κ} {k : κ} {xs : List α} {x : α} :
    x ∈ withKey key k xs ↔ x ∈ xs ∧ key x = k := by
  simp [withKey]

variable {key : α → κ} {r : α → α → Prop} [DecidableRel r]

theorem withKey_orderedInsert (byKey : ∀ x y, r x y ↔ key x ≤ key y) (k : κ) (x : α)
    (xs : List α) : withKey key k (xs.orderedInsert r x) = withKey key k (x :: xs) := by
  induction xs with
  | nil => simp
  | cons head tail ih =>
      by_cases first : r x head
      · simp [first]
      have apart : key x ≠ key head := fun same => first ((byKey x head).mpr same.le)
      simp only [withKey] at ih
      simp only [withKey, List.orderedInsert_cons, first, if_false, List.filter_cons, ih]
      by_cases late : key x = k
      · have other : key head ≠ k := fun same => apart (late.trans same.symm)
        simp [late, other]
      · simp [late]

theorem withKey_insertionSort (byKey : ∀ x y, r x y ↔ key x ≤ key y) (k : κ) (xs : List α) :
    withKey key k (xs.insertionSort r) = withKey key k xs := by
  induction xs with
  | nil => rfl
  | cons head tail ih =>
      calc withKey key k ((head :: tail).insertionSort r)
          = withKey key k (head :: tail.insertionSort r) := withKey_orderedInsert byKey k head _
        _ = withKey key k (head :: tail) := by
          simp only [withKey] at ih
          simp only [withKey, List.filter_cons, ih]

theorem eq_of_withKey {xs ys : List α} (left : xs.Pairwise fun x y => key x ≤ key y)
    (right : ys.Pairwise fun x y => key x ≤ key y)
    (agree : ∀ k, withKey key k xs = withKey key k ys) : xs = ys := by
  induction xs generalizing ys with
  | nil =>
      cases ys with
      | nil => rfl
      | cons y ys => simpa [withKey] using agree (key y)
  | cons x xs ih =>
      cases ys with
      | nil => simpa [withKey] using agree (key x)
      | cons y ys =>
          have within : x ∈ y :: ys := by
            have member : x ∈ withKey key (key x) (x :: xs) := mem_withKey.mpr ⟨by simp, rfl⟩
            rw [agree] at member
            exact (mem_withKey.mp member).1
          have inside : y ∈ x :: xs := by
            have member : y ∈ withKey key (key y) (y :: ys) := mem_withKey.mpr ⟨by simp, rfl⟩
            rw [← agree] at member
            exact (mem_withKey.mp member).1
          have below : key y ≤ key x := by
            rcases List.mem_cons.mp within with rfl | later
            · exact le_rfl
            · exact List.rel_of_pairwise_cons right later
          have above : key x ≤ key y := by
            rcases List.mem_cons.mp inside with rfl | later
            · exact le_rfl
            · exact List.rel_of_pairwise_cons left later
          have level : key x = key y := le_antisymm above below
          have heads : x = y ∧ withKey key (key y) xs = withKey key (key y) ys := by
            simpa [withKey, level] using agree (key y)
          have rest : xs = ys := by
            apply ih left.of_cons right.of_cons
            intro k
            by_cases same : key y = k
            · subst same
              exact heads.2
            · simpa [withKey, level, same] using agree k
          rw [heads.1, rest]

theorem insertionSort_eq_iff (byKey : ∀ x y, r x y ↔ key x ≤ key y) {xs ys : List α} :
    xs.insertionSort r = ys.insertionSort r ↔ ∀ k, withKey key k xs = withKey key k ys := by
  have sorted : ∀ zs : List α, (zs.insertionSort r).Pairwise fun x y => key x ≤ key y := by
    intro zs
    have total : Std.Total r := ⟨fun x y => by simpa [byKey] using le_total (key x) (key y)⟩
    have trans : IsTrans α r := ⟨fun x y z => by simpa [byKey] using le_trans⟩
    exact (List.pairwise_insertionSort r zs).imp fun related => (byKey _ _).mp related
  constructor
  · intro same k
    rw [← withKey_insertionSort byKey k xs, same, withKey_insertionSort byKey k ys]
  · intro agree
    apply eq_of_withKey (sorted xs) (sorted ys)
    intro k
    rw [withKey_insertionSort byKey, withKey_insertionSort byKey, agree]

theorem perm_of_withKey {xs ys : List α} (agree : ∀ k, withKey key k xs = withKey key k ys) :
    xs.Perm ys := by
  have same : xs.insertionSort (fun x y => key x ≤ key y) =
      ys.insertionSort (fun x y => key x ≤ key y) := (insertionSort_eq_iff fun _ _ => .rfl).mpr agree
  have left := List.perm_insertionSort (fun x y => key x ≤ key y) xs
  have right := List.perm_insertionSort (fun x y => key x ≤ key y) ys
  rw [same] at left
  exact left.symm.trans right

theorem insertionSort_eq_of_perm (byKey : ∀ x y, r x y ↔ key x ≤ key y) {xs ys : List α}
    (distinct : (xs.map key).Nodup) (order : xs.Perm ys) :
    xs.insertionSort r = ys.insertionSort r := by
  refine (insertionSort_eq_iff byKey).mpr fun k => ?_
  have shuffled : (withKey key k xs).Perm (withKey key k ys) := order.filter _
  have single : (withKey key k xs).length ≤ 1 := by
    have keys : ((withKey key k xs).map key).Nodup := distinct.sublist (List.filter_sublist.map key)
    have same : (withKey key k xs).map key = List.replicate (withKey key k xs).length k :=
      List.map_eq_replicate_iff.mpr fun x member => (mem_withKey.mp member).2
    rw [same] at keys
    exact List.nodup_replicate.mp keys
  cases found : withKey key k xs with
  | nil =>
      rw [found] at shuffled
      exact shuffled.nil_eq
  | cons x rest =>
      rw [found] at shuffled single
      obtain rfl : rest = [] := List.eq_nil_of_length_eq_zero (by simpa using single)
      exact shuffled.singleton_eq

end GreenticDeployer.Lib
