import Mathlib.Data.List.Nodup

/-!
# Filling a keyed list from another

Elements of the second list are appended where their key is still free. The first list
keeps its own, and filling again adds nothing.
-/

set_option maxHeartbeats 200000

namespace GreenticDeployer.Lib

variable {α κ : Type} [DecidableEq κ] (key : α → κ)

@[simp] def fill (own : List α) : List α → List α
  | [] => own
  | head :: rest => if key head ∈ own.map key then fill own rest else fill (own ++ [head]) rest

variable {key}

theorem mem_keys_fill {own more : List α} {k : κ} :
    k ∈ (fill key own more).map key ↔ k ∈ own.map key ∨ k ∈ more.map key := by
  induction more generalizing own with
  | nil => simp
  | cons head rest ih =>
      unfold fill
      split
      · rename_i taken
        rw [ih, List.map_cons, List.mem_cons]
        constructor
        · exact fun either => either.imp_right .inr
        · rintro (mine | rfl | other)
          · exact .inl mine
          · exact .inl taken
          · exact .inr other
      · rw [ih]
        simp only [List.map_append, List.map_cons, List.map_nil, List.mem_append, List.mem_cons,
          List.not_mem_nil, or_false]
        tauto

theorem fill_of_taken {own more : List α} (taken : ∀ x ∈ more, key x ∈ own.map key) :
    fill key own more = own := by
  induction more with
  | nil => rfl
  | cons head rest ih =>
      rw [fill, if_pos (taken head List.mem_cons_self)]
      exact ih fun x member => taken x (List.mem_cons_of_mem _ member)

theorem fill_again (own more : List α) :
    fill key (fill key own more) more = fill key own more :=
  fill_of_taken fun _ member => mem_keys_fill.mpr (.inr (List.mem_map_of_mem member))

theorem filter_eq_find? {own : List α} (distinct : (own.map key).Nodup) (k : κ) :
    own.filter (fun x => key x = k) = (own.find? fun x => key x = k).toList := by
  induction own with
  | nil => rfl
  | cons head rest ih =>
      obtain ⟨alone, later⟩ := List.nodup_cons.mp distinct
      by_cases hit : key head = k
      · have none_ : rest.filter (fun x => key x = k) = [] := by
          refine List.filter_eq_nil_iff.mpr fun x member same => alone ?_
          rw [hit, ← of_decide_eq_true same]
          exact List.mem_map_of_mem member
        simp [hit, none_]
      · simp [hit, ih later]

theorem filter_fill {own : List α} (distinct : (own.map key).Nodup) (more : List α) (k : κ) :
    (fill key own more).filter (fun x => key x = k) =
      ((own.find? fun x => key x = k).or (more.find? fun x => key x = k)).toList := by
  induction more generalizing own with
  | nil => simp [filter_eq_find? distinct]
  | cons head rest ih =>
      unfold fill
      split
      · rename_i taken
        rw [ih distinct]
        by_cases hit : key head = k
        · obtain ⟨x, member, same⟩ := List.mem_map.mp taken
          have found : (own.find? fun x => key x = k).isSome = true :=
            List.find?_isSome.mpr ⟨x, member, decide_eq_true (same.trans hit)⟩
          obtain ⟨y, there⟩ := Option.isSome_iff_exists.mp found
          simp [there]
        · simp [hit]
      · rename_i free
        have longer : ((own ++ [head]).map key).Nodup := by
          rw [List.map_append, List.nodup_append_comm]
          exact List.nodup_cons.mpr ⟨free, distinct⟩
        rw [ih longer, List.find?_append]
        by_cases hit : key head = k
        · simp [hit]
        · simp [hit]

end GreenticDeployer.Lib
