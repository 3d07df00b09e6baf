import Mathlib.Data.List.Infix

/-!
# Words with a mark

Endings of concatenated words, where a mark or a separator tells the parts
apart.
-/

set_option maxHeartbeats 200000

namespace GreenticDeployer.Lib

variable {α : Type*}

/-- An ending of a concatenation lies in its second part or spans it. -/
theorem suffix_append_cases {word left right : List α} :
    word <:+ left ++ right ↔ word <:+ right ∨ ∃ lead, word = lead ++ right ∧ lead <:+ left := by
  constructor
  · rintro ⟨front, whole⟩
    rcases List.append_eq_append_iff.mp whole with ⟨lead, rfl, rfl⟩ | ⟨rest, rfl, rfl⟩
    · exact .inr ⟨lead, rfl, List.suffix_append front lead⟩
    · exact .inl (List.suffix_append rest word)
  · rintro (inside | ⟨lead, rfl, inside⟩)
    · exact List.suffix_append_of_suffix inside
    · exact List.suffix_append_self_iff.mpr inside

/-- A word that starts with a mark, as an ending of another: it is the whole of
it, or it lies behind the part that is free of the mark. -/
theorem marked_suffix {mark : α} {word head tail : List α} (free : mark ∉ head) :
    mark :: word <:+ mark :: (head ++ tail) ↔ word = head ++ tail ∨ mark :: word <:+ tail := by
  rw [List.suffix_cons_iff, List.cons.injEq]
  refine or_congr (and_iff_right rfl) ⟨?_, List.suffix_append_of_suffix⟩
  intro inside
  rcases suffix_append_cases.mp inside with behind | ⟨lead, whole, early⟩
  · exact behind
  · cases lead with
    | nil =>
        rw [whole]
        exact List.suffix_refl tail
    | cons first rest =>
        rw [List.cons_append] at whole
        injection whole with same
        exact absurd (early.subset (same ▸ List.mem_cons_self ..)) free

theorem split_at_separator {separator : α} {head other tail rest : List α}
    (free : separator ∉ head) (clean : separator ∉ other)
    (same : head ++ separator :: tail = other ++ separator :: rest) : head = other ∧ tail = rest := by
  induction head generalizing other with
  | nil =>
      cases other with
      | nil => exact ⟨rfl, List.tail_eq_of_cons_eq same⟩
      | cons first more =>
          injection same with start
          exact absurd (start ▸ List.mem_cons_self ..) clean
  | cons first more ih =>
      cases other with
      | nil =>
          injection same with start
          exact absurd (start ▸ List.mem_cons_self ..) free
      | cons second others =>
          injection same with start remaining
          obtain ⟨heads, tails⟩ := ih (fun member => free (List.mem_cons_of_mem _ member))
            (fun member => clean (List.mem_cons_of_mem _ member)) remaining
          exact ⟨by rw [start, heads], tails⟩

end GreenticDeployer.Lib
