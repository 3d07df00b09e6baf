import Mathlib.Data.List.Basic

/-!
# Inverting successful computations

What a computation that returned must have gone through, one statement at a
time, and what a loop of fallible steps keeps.
-/

set_option maxHeartbeats 200000

namespace GreenticDeployer.Lib

variable {ε α β γ σ : Type}

theorem bind_ok {x : Except ε α} {f : α → Except ε β} {result : β}
    (returned : (x >>= f) = .ok result) : ∃ a, x = .ok a ∧ f a = .ok result := by
  cases x with
  | error e => cases returned
  | ok a => exact ⟨a, rfl, returned⟩

theorem bind_of_ok {x : Except ε α} {a : α} (returned : x = .ok a) (f : α → Except ε β) :
    (x >>= f) = f a := by
  rw [returned]
  rfl

/-- Go on only where a condition holds. -/
def ensure (condition : Prop) [Decidable condition] (e : ε) : Except ε Unit :=
  if condition then .ok () else .error e

theorem ensure_ok {condition : Prop} [Decidable condition] {e : ε} {u : Unit}
    (returned : ensure condition e = .ok u) : condition := by
  unfold ensure at returned
  split at returned
  · assumption
  · cases returned

theorem ensure_of {condition : Prop} [Decidable condition] (holds : condition) (e : ε) :
    ensure condition e = .ok () := if_pos holds

theorem bind_error {x : Except ε α} {f : α → Except ε β} {e : ε}
    (failed : (x >>= f) = .error e) : x = .error e ∨ ∃ a, x = .ok a ∧ f a = .error e := by
  cases x with
  | error other =>
      cases failed
      exact .inl rfl
  | ok a => exact .inr ⟨a, rfl, failed⟩

theorem map_ok {x : Except ε α} {f : α → β} {b : β} (returned : x.map f = .ok b) :
    ∃ a, x = .ok a ∧ f a = b := by
  cases x with
  | error e => cases returned
  | ok a => exact ⟨a, rfl, Except.ok.inj returned⟩

theorem pure_ok {a b : α} (returned : (pure a : Except ε α) = .ok b) : a = b := by
  cases returned
  rfl

theorem isSome_of_mapM {f : α → Option β} {xs : List α} {ys : List β}
    (returned : xs.mapM f = some ys) : ∀ x ∈ xs, (f x).isSome = true := by
  induction xs generalizing ys with
  | nil => simp
  | cons head tail ih =>
      rw [List.mapM_cons] at returned
      obtain ⟨first, found, remaining⟩ := Option.bind_eq_some_iff.mp returned
      obtain ⟨rest, traversed, -⟩ := Option.bind_eq_some_iff.mp remaining
      intro x member
      rcases List.mem_cons.mp member with rfl | later
      · simp [found]
      · exact ih traversed x later

theorem forM_ok {check : α → Except ε PUnit} {xs : List α} :
    xs.forM check = .ok ⟨⟩ ↔ ∀ x ∈ xs, check x = .ok ⟨⟩ := by
  induction xs with
  | nil => exact ⟨fun _ => by simp, fun _ => rfl⟩
  | cons head tail ih =>
      rw [List.forall_mem_cons, ← ih]
      change (check head >>= fun _ => tail.forM check) = .ok ⟨⟩ ↔ _
      cases check head with
      | error e => exact ⟨fun passed => (by cases passed), fun both => (by cases both.1)⟩
      | ok u => exact ⟨fun passed => ⟨rfl, passed⟩, fun both => both.2⟩

/-- What every successful step of a loop keeps, the loop keeps. -/
theorem foldlM_invariant {step : σ → α → Except ε σ} (Inv : σ → Prop) (items : List α)
    (kept : ∀ item ∈ items, ∀ state next, step state item = .ok next → Inv state → Inv next)
    {state final : σ} (returned : items.foldlM step state = .ok final) (initial : Inv state) :
    Inv final := by
  induction items generalizing state with
  | nil =>
      cases returned
      exact initial
  | cons item rest ih =>
      rw [List.foldlM_cons] at returned
      obtain ⟨next, stepped, remaining⟩ := bind_ok returned
      exact ih (fun other member => kept other (List.mem_cons_of_mem _ member)) remaining
        (kept item List.mem_cons_self state next stepped initial)

theorem isOk_eq {outcome : Except ε α} (ok : outcome.isOk = true) (default_ : α) :
    outcome = .ok (outcome.toOption.getD default_) := by
  cases outcome with
  | error e => cases ok
  | ok a => rfl

theorem toOption_some {ε τ : Type} {outcome : Except ε τ} {value : τ}
    (decoded : outcome.toOption = some value) : outcome = .ok value := by
  cases outcome with
  | error e => cases decoded
  | ok other =>
      cases decoded
      rfl

theorem mapError_ok {ε ε' α : Type} {outcome : Except ε α} {onError : ε → ε'} {a : α}
    (returned : outcome.mapError onError = .ok a) : outcome = .ok a := by
  cases outcome with
  | ok b => cases returned; rfl
  | error e => cases returned

theorem mapError_error {ε ε' α : Type} {outcome : Except ε α} {onError : ε → ε'} {e : ε'}
    (failed : outcome.mapError onError = .error e) : ∃ inner, outcome = .error inner := by
  cases outcome with
  | ok b => cases failed
  | error inner => exact ⟨inner, rfl⟩

end GreenticDeployer.Lib
