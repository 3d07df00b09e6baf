import Mathlib.Data.List.Sort

/-!
# Greatest elements

The last of the maximal elements, the head of a descending sort, and what both
have in common: an element of the list whose key no other key exceeds.
-/

set_option maxHeartbeats 200000

namespace GreenticDeployer.Lib

variable {α κ : Type*} [LinearOrder κ]

/-- A later element takes the place of the best one so far unless that one is
greater. -/
def laterMax (cmp : α → α → Ordering) (best later : α) : α :=
  match cmp best later with
  | .gt => best
  | _ => later

/-- `Iterator::max_by`: the last of the maximal elements. -/
def maxBy (cmp : α → α → Ordering) : List α → Option α
  | [] => none
  | head :: tail => some (tail.foldl (laterMax cmp) head)

/-- `Iterator::max_by_key`: the last of the elements with the greatest key. -/
@[simp] def maxByKey (key : α → κ) : List α → Option α
  | [] => none
  | head :: tail =>
    match maxByKey key tail with
    | none => some head
    | some best => if key best < key head then some head else some best

def Greatest (key : α → κ) (among : α → Prop) (m : α) : Prop :=
  among m ∧ ∀ x, among x → key x ≤ key m

theorem Greatest.unique {key : α → κ} {among : α → Prop} {m n : α}
    (apart : ∀ x y, among x → among y → key x = key y → x = y)
    (left : Greatest key among m) (right : Greatest key among n) : m = n := by
  have level : key m = key n := le_antisymm (right.2 m left.1) (left.2 n right.1)
  exact apart m n left.1 right.1 level

variable {key : α → κ} {cmp : α → α → Ordering}

theorem laterMax_cases (byKey : ∀ x y, cmp x y = .gt ↔ key y < key x) (best later : α) :
    (laterMax cmp best later = best ∧ key later ≤ key best) ∨
      (laterMax cmp best later = later ∧ key best ≤ key later) := by
  by_cases more : cmp best later = .gt
  · have below : key later < key best := (byKey best later).mp more
    exact .inl ⟨by simp [laterMax, more], below.le⟩
  · have above : key best ≤ key later := not_lt.mp fun less => more ((byKey best later).mpr less)
    exact .inr ⟨by simp only [laterMax], above⟩

theorem foldl_laterMax (byKey : ∀ x y, cmp x y = .gt ↔ key y < key x) (head : α)
    (tail : List α) : Greatest key (· ∈ head :: tail) (tail.foldl (laterMax cmp) head) := by
  induction tail generalizing head with
  | nil => simp [Greatest]
  | cons next tail ih =>
      obtain ⟨inside, bound⟩ := ih (laterMax cmp head next)
      have top := bound (laterMax cmp head next) (by simp)
      have others : ∀ x ∈ tail, key x ≤ key (tail.foldl (laterMax cmp) (laterMax cmp head next)) :=
        fun x member => bound x (by simp [member])
      rw [List.foldl_cons]
      rcases laterMax_cases byKey head next with ⟨kept, below⟩ | ⟨taken, above⟩
      · rw [kept] at inside top others ⊢
        constructor
        · simp only [List.mem_cons] at inside ⊢
          tauto
        · simpa using ⟨top, below.trans top, others⟩
      · rw [taken] at inside top others ⊢
        constructor
        · simp only [List.mem_cons] at inside ⊢
          tauto
        · simpa using ⟨above.trans top, top, others⟩

theorem maxBy_none {xs : List α} : maxBy cmp xs = none ↔ xs = [] := by
  cases xs with
  | nil => simp [maxBy]
  | cons head tail => simp [maxBy]

theorem maxBy_greatest (byKey : ∀ x y, cmp x y = .gt ↔ key y < key x) {xs : List α} {m : α}
    (found : maxBy cmp xs = some m) : Greatest key (· ∈ xs) m := by
  cases xs with
  | nil => simp [maxBy] at found
  | cons head tail =>
      have shape : tail.foldl (laterMax cmp) head = m := by simpa [maxBy] using found
      exact shape ▸ foldl_laterMax byKey head tail

theorem maxByKey_none {xs : List α} : maxByKey key xs = none ↔ xs = [] := by
  cases xs with
  | nil => simp
  | cons head tail =>
      cases rest : maxByKey key tail with
      | none => simp [rest]
      | some best =>
          simp only [maxByKey, rest, List.cons_ne_nil, iff_false]
          split <;> exact Option.some_ne_none _

theorem maxByKey_greatest {xs : List α} {m : α} (found : maxByKey key xs = some m) :
    Greatest key (· ∈ xs) m := by
  induction xs generalizing m with
  | nil => cases found
  | cons head tail ih =>
      cases rest : maxByKey key tail with
      | none =>
          simp only [maxByKey, rest, Option.some.injEq] at found
          simp [Greatest, found, maxByKey_none.mp rest]
      | some best =>
          obtain ⟨inside, bound⟩ := ih rest
          simp only [maxByKey, rest] at found
          split at found
          · rename_i more
            cases found
            refine ⟨List.mem_cons_self, fun x member => ?_⟩
            rcases List.mem_cons.mp member with rfl | other
            · exact le_rfl
            · exact (bound x other).trans more.le
          · rename_i less
            cases found
            refine ⟨List.mem_cons_of_mem _ inside, fun x member => ?_⟩
            rcases List.mem_cons.mp member with rfl | other
            · exact not_lt.mp less
            · exact bound x other

/-- Dropping others does not change which element is the last maximum. -/
theorem maxByKey_filter {kept : α → Bool} {xs : List α} {m : α}
    (found : maxByKey key xs = some m) (stays : kept m = true) :
    maxByKey key (xs.filter kept) = some m := by
  induction xs generalizing m with
  | nil => cases found
  | cons head tail ih =>
      cases rest : maxByKey key tail with
      | none =>
          simp only [maxByKey, rest, Option.some.injEq] at found
          simp [maxByKey_none.mp rest, found, stays]
      | some best =>
          simp only [maxByKey, rest] at found
          split at found
          · rename_i more
            cases found
            rw [List.filter_cons_of_pos stays, maxByKey]
            cases others : maxByKey key (tail.filter kept) with
            | none => rfl
            | some other =>
                have member := List.mem_of_mem_filter (maxByKey_greatest others).1
                exact if_pos (((maxByKey_greatest rest).2 other member).trans_lt more)
          · rename_i less
            cases found
            by_cases also : kept head = true
            · rw [List.filter_cons_of_pos also, maxByKey, ih rest stays]
              exact if_neg less
            · rw [List.filter_cons_of_neg also]
              exact ih rest stays

theorem greatest_of_sorted {r : α → α → Prop} [DecidableRel r]
    (byKey : ∀ x y, r x y ↔ key y ≤ key x) {xs rest : List α} {m : α}
    (sorted : xs.insertionSort r = m :: rest) : Greatest key (· ∈ xs) m := by
  have total : Std.Total r := ⟨fun x y => by simpa [byKey] using le_total (key y) (key x)⟩
  have trans : IsTrans α r := ⟨fun x y z first second =>
    (byKey x z).mpr (((byKey y z).mp second).trans ((byKey x y).mp first))⟩
  have order := List.pairwise_insertionSort r xs
  have same := List.perm_insertionSort r xs
  rw [sorted] at order same
  constructor
  · exact same.mem_iff.mp (by simp)
  · intro x member
    rcases List.mem_cons.mp (same.mem_iff.mpr member) with rfl | later
    · exact le_rfl
    · exact (byKey m x).mp (List.rel_of_pairwise_cons order later)

end GreenticDeployer.Lib
