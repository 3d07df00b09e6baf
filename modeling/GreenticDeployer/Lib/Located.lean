import Mathlib.Data.List.Nodup

/-!
# Editing a list at the first match

`locate` is a search followed by indexed access: the match together with what
stands before and after it, so that a replacement or a removal is stated
without index arithmetic.
-/

set_option maxHeartbeats 200000

namespace GreenticDeployer.Lib

variable {α β : Type*}

structure Located (α : Type*) where
  before : List α
  hit : α
  after : List α

namespace Located

def index (found : Located α) : Nat := found.before.length

def replace (found : Located α) (value : α) : List α :=
  found.before ++ value :: found.after

def remove (found : Located α) : List α := found.before ++ found.after

end Located

@[simp] def locate (p : α → Bool) : List α → Option (Located α)
  | [] => none
  | head :: tail =>
    if p head then some ⟨[], head, tail⟩
    else (locate p tail).map fun found => { found with before := head :: found.before }

theorem locate_eq_none {p : α → Bool} {xs : List α} :
    locate p xs = none ↔ ∀ x ∈ xs, p x = false := by
  induction xs with
  | nil => simp
  | cons head tail ih =>
      by_cases hit : p head
      · simp [hit]
      · simp [hit, ih]

/-- What a successful search says about the list it searched. -/
theorem locate_eq_some {p : α → Bool} {xs : List α} {found : Located α}
    (located : locate p xs = some found) :
    xs = found.before ++ found.hit :: found.after ∧ p found.hit = true ∧
      ∀ x ∈ found.before, p x = false := by
  induction xs generalizing found with
  | nil => simp at located
  | cons head tail ih =>
      by_cases hit : p head
      · simp only [locate, hit, if_true, Option.some.injEq] at located
        subst located
        simp [hit]
      · rw [locate, if_neg hit, Option.map_eq_some_iff] at located
        obtain ⟨inner, within, rfl⟩ := located
        obtain ⟨shape, matched, earlier⟩ := ih within
        refine ⟨by simp [← shape], matched, ?_⟩
        intro x member
        rcases List.mem_cons.mp member with rfl | later
        · simpa using hit
        · exact earlier x later

theorem find?_eq_locate (p : α → Bool) (xs : List α) :
    xs.find? p = (locate p xs).map (·.hit) := by
  induction xs with
  | nil => rfl
  | cons head tail ih =>
      by_cases hit : p head
      · simp [hit]
      · simp [hit, ih, Function.comp_def]

theorem locate_of_find? {p : α → Bool} {xs : List α} {x : α} (found : xs.find? p = some x) :
    ∃ located, locate p xs = some located ∧ located.hit = x := by
  rw [find?_eq_locate] at found
  exact Option.map_eq_some_iff.mp found

theorem Located.find?_replace {p : α → Bool} {xs : List α} {found : Located α} {value : α}
    (located : locate p xs = some found) (matched : p value = true) :
    (found.replace value).find? p = some value := by
  have earlier : found.before.find? p = none := by
    rw [List.find?_eq_none]
    intro x member
    simp [(locate_eq_some located).2.2 x member]
  simp [Located.replace, List.find?_append, earlier, matched]

theorem locate_replace {p : α → Bool} {xs : List α} {found : Located α} (value : α)
    (located : locate p xs = some found) (matched : p value = true) :
    ∃ again, locate p (found.replace value) = some again ∧ again.hit = value :=
  locate_of_find? (Located.find?_replace located matched)

/-- A search that neither the match nor its replacement satisfies is unchanged. -/
theorem Located.find?_replace_of_ne {p q : α → Bool} {xs : List α} {found : Located α}
    {value : α} (located : locate p xs = some found) (hit : q found.hit = false)
    (new : q value = false) : (found.replace value).find? q = xs.find? q := by
  rw [(locate_eq_some located).1]
  simp [Located.replace, List.find?_append, hit, new]

theorem Located.find?_remove_of_ne {p q : α → Bool} {xs : List α} {found : Located α}
    (located : locate p xs = some found) (hit : q found.hit = false) :
    found.remove.find? q = xs.find? q := by
  rw [(locate_eq_some located).1]
  simp [Located.remove, List.find?_append, hit]

theorem find?_filter_of_kept {p q : α → Bool} {xs : List α} {x : α}
    (found : xs.find? p = some x) (kept : q x = true) : (xs.filter q).find? p = some x := by
  induction xs with
  | nil => cases found
  | cons head tail ih =>
      by_cases hit : p head
      · rw [List.find?_cons_of_pos hit] at found
        cases found
        simp [kept, hit]
      · rw [List.find?_cons_of_neg hit] at found
        by_cases keep : q head
        · simp [keep, hit, ih found]
        · simp [keep, ih found]

theorem Located.mem_hit {p : α → Bool} {xs : List α} {found : Located α}
    (located : locate p xs = some found) : found.hit ∈ xs := by
  rw [(locate_eq_some located).1]
  simp

theorem Located.mem_replace {found : Located α} {value x : α} :
    x ∈ found.replace value ↔ x = value ∨ x ∈ found.remove := by
  simp only [replace, remove, List.mem_append, List.mem_cons]
  tauto

theorem Located.map_replace {p : α → Bool} {xs : List α} {found : Located α} {value : α}
    (located : locate p xs = some found) (key : α → β) (same : key value = key found.hit) :
    (found.replace value).map key = xs.map key := by
  rw [(locate_eq_some located).1]
  simp [Located.replace, same]

theorem Located.getElem?_index {p : α → Bool} {xs : List α} {found : Located α}
    (located : locate p xs = some found) : xs[found.index]? = some found.hit := by
  rw [(locate_eq_some located).1]
  simp [Located.index]

theorem Located.getElem?_replace_of_ne {p : α → Bool} {xs : List α} {found : Located α}
    {value : α} {other : Nat} (located : locate p xs = some found) (elsewhere : other ≠ found.index) :
    (found.replace value)[other]? = xs[other]? := by
  have replaced : found.replace value = xs.set found.index value := by
    rw [(locate_eq_some located).1]
    simp [Located.replace, Located.index]
  rw [replaced, List.getElem?_set_ne (Ne.symm elsewhere)]

theorem Located.eraseP_eq {p : α → Bool} {xs : List α} {found : Located α}
    (located : locate p xs = some found) : xs.eraseP p = found.remove := by
  obtain ⟨shape, hit, earlier⟩ := locate_eq_some located
  rw [shape, List.eraseP_append_right _ (by simpa using earlier), List.eraseP_cons_of_pos hit]
  rfl

theorem Located.remove_sublist {p : α → Bool} {xs : List α} {found : Located α}
    (located : locate p xs = some found) : found.remove.Sublist xs := by
  rw [(locate_eq_some located).1]
  exact (List.Sublist.refl _).append (List.sublist_cons_self _ _)

theorem Located.mem_of_mem_remove {p : α → Bool} {xs : List α} {found : Located α} {x : α}
    (located : locate p xs = some found) (member : x ∈ found.remove) : x ∈ xs :=
  (Located.remove_sublist located).subset member

theorem Located.filter_replace {p q : α → Bool} {xs : List α} {found : Located α} {value : α}
    (located : locate p xs = some found) (hit : q found.hit = false) (new : q value = false) :
    (found.replace value).filter q = xs.filter q := by
  rw [(locate_eq_some located).1]
  simp [Located.replace, hit, new]

theorem nodup_map_append {key : α → β} {xs : List α} {x : α}
    (distinct : (xs.map key).Nodup) (fresh : ∀ y ∈ xs, key y ≠ key x) :
    ((xs ++ [x]).map key).Nodup := by
  simp only [List.map_append, List.map_cons, List.map_nil]
  rw [List.nodup_append_comm]
  refine List.nodup_cons.mpr ⟨?_, distinct⟩
  intro member
  obtain ⟨y, inside, same⟩ := List.mem_map.mp member
  exact fresh y inside same

theorem nodup_map_replace {p : α → Bool} {key : α → β} {xs : List α} {found : Located α}
    {value : α} (located : locate p xs = some found) (same : key value = key found.hit)
    (distinct : (xs.map key).Nodup) : ((found.replace value).map key).Nodup := by
  rw [Located.map_replace located key same]
  exact distinct

theorem nodup_map_remove {p : α → Bool} {key : α → β} {xs : List α} {found : Located α}
    (located : locate p xs = some found) (distinct : (xs.map key).Nodup) :
    (found.remove.map key).Nodup :=
  distinct.sublist ((Located.remove_sublist located).map key)

theorem Located.key_not_mem_remove {p : α → Bool} {key : α → β} {xs : List α} {found : Located α}
    (located : locate p xs = some found) (distinct : (xs.map key).Nodup) :
    key found.hit ∉ found.remove.map key := by
  rw [(locate_eq_some located).1, List.map_append, List.map_cons, List.nodup_middle] at distinct
  rw [Located.remove, List.map_append]
  exact (List.nodup_cons.mp distinct).1

theorem Located.remove_eq_filter [DecidableEq β] {key : α → β} {wanted : β} {xs : List α}
    {found : Located α} (located : locate (fun x => decide (key x = wanted)) xs = some found)
    (distinct : (xs.map key).Nodup) : found.remove = xs.filter fun x => key x ≠ wanted := by
  have absent := Located.key_not_mem_remove located distinct
  obtain ⟨shape, matched, -⟩ := locate_eq_some located
  have hit : key found.hit = wanted := of_decide_eq_true matched
  have others : ∀ x ∈ found.remove, key x ≠ wanted := by
    intro x member same
    exact absent (List.mem_map.mpr ⟨x, member, same.trans hit.symm⟩)
  have kept : found.remove.filter (fun x => key x ≠ wanted) = found.remove :=
    List.filter_eq_self.mpr fun x member => decide_eq_true (others x member)
  rw [← kept, shape, Located.remove]
  simp [hit]

theorem locate_unique [DecidableEq β] {key : α → β} {wanted : β} {xs : List α} {x : α}
    (distinct : (xs.map key).Nodup) (member : x ∈ xs) (same : key x = wanted) :
    ∃ found, locate (fun x => decide (key x = wanted)) xs = some found ∧ found.hit = x := by
  cases located : locate (fun x => decide (key x = wanted)) xs with
  | none =>
      have missed := locate_eq_none.mp located x member
      exact absurd same (of_decide_eq_false missed)
  | some found =>
      have hit : key found.hit = wanted := of_decide_eq_true (locate_eq_some located).2.1
      exact ⟨found, rfl, List.inj_on_of_nodup_map distinct (Located.mem_hit located) member
        (hit.trans same.symm)⟩

/-- A list with distinct keys whose elements all satisfy a predicate. -/
structure Keyed (key : α → β) (ok : α → Prop) (xs : List α) : Prop where
  distinct : (xs.map key).Nodup
  each : ∀ x ∈ xs, ok x

namespace Keyed

variable {key : α → β} {ok : α → Prop} {xs : List α}

theorem nil : Keyed key ok [] := ⟨List.nodup_nil, by simp⟩

theorem push {x : α} (keyed : Keyed key ok xs) (fresh : ∀ y ∈ xs, key y ≠ key x) (new : ok x) :
    Keyed key ok (xs ++ [x]) := by
  refine ⟨nodup_map_append keyed.distinct fresh, ?_⟩
  intro y member
  rcases List.mem_append.mp member with old | last
  · exact keyed.each y old
  · rw [List.mem_singleton.mp last]
    exact new

theorem replace {p : α → Bool} {found : Located α} {value : α} (keyed : Keyed key ok xs)
    (located : locate p xs = some found) (same : key value = key found.hit) (new : ok value) :
    Keyed key ok (found.replace value) := by
  refine ⟨nodup_map_replace located same keyed.distinct, ?_⟩
  intro y member
  rcases Located.mem_replace.mp member with rfl | other
  · exact new
  · exact keyed.each y (Located.mem_of_mem_remove located other)

theorem remove {p : α → Bool} {found : Located α} (keyed : Keyed key ok xs)
    (located : locate p xs = some found) : Keyed key ok found.remove :=
  ⟨nodup_map_remove located keyed.distinct,
    fun y member => keyed.each y (Located.mem_of_mem_remove located member)⟩

end Keyed

end GreenticDeployer.Lib
