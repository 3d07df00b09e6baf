import Mathlib.Data.List.Basic

/-!
# Sessions that keep what they wrote

A session works on a state and may fail; what it wrote before it failed stays.
The rules here take a session apart at its binds and loops: what a successful one
went through, and which part of the state no run of it touches.
-/

set_option maxHeartbeats 200000

namespace GreenticDeployer.Lib

abbrev Session (σ ε α : Type) := ExceptT ε (StateM σ) α

namespace Session

variable {σ ε α β τ ι : Type}

def on (x : Session σ ε α) (s : σ) : Except ε α × σ := (ExceptT.run x).run s

def act (f : σ → Except ε α × σ) : Session σ ε α := ExceptT.mk (StateT.mk f)

def lift (outcome : Except ε α) : Session σ ε α := act fun s => (outcome, s)

@[simp] theorem on_act (f : σ → Except ε α × σ) (s : σ) : (act f).on s = f s := rfl

theorem on_bind (x : Session σ ε α) (f : α → Session σ ε β) (s : σ) :
    (x >>= f).on s = match x.on s with
      | (.ok a, t) => (f a).on t
      | (.error e, t) => (.error e, t) := by
  simp only [on, ExceptT.run_bind, StateT.run_bind]
  cases step : (ExceptT.run x).run s with
  | mk result t => cases result <;> rfl

theorem on_bind_ok {x : Session σ ε α} {f : α → Session σ ε β} {s t : σ} {b : β} :
    (x >>= f).on s = (.ok b, t) ↔ ∃ a u, x.on s = (.ok a, u) ∧ (f a).on u = (.ok b, t) := by
  rw [on_bind]
  cases step : x.on s with
  | mk result u =>
      cases result with
      | error e => simp
      | ok a => simp

/-- Whether it fails or not, a run of the session relates the state it met to the one it
leaves. -/
def Moves (R : σ → σ → Prop) (x : Session σ ε α) : Prop := ∀ s, R s (x.on s).2

namespace Moves

variable {R : σ → σ → Prop}

theorem pure (refl : ∀ s, R s s) (a : α) : Moves R (Pure.pure a : Session σ ε α) := refl

theorem lift (refl : ∀ s, R s s) (outcome : Except ε α) :
    Moves R (Session.lift outcome : Session σ ε α) := refl

theorem bind (trans : ∀ s t u, R s t → R t u → R s u) {x : Session σ ε α}
    {f : α → Session σ ε β} (first : Moves R x) (later : ∀ a, Moves R (f a)) :
    Moves R (x >>= f) := by
  intro s
  have moved := first s
  rw [on_bind]
  cases step : x.on s with
  | mk result t =>
      rw [step] at moved
      cases result with
      | error e => exact moved
      | ok a => exact trans _ _ _ moved (later a t)

theorem ok {x : Session σ ε α} {s t : σ} {a : α} (moves : Moves R x)
    (ran : x.on s = (.ok a, t)) : R s t := by
  have moved := moves s
  rwa [ran] at moved

end Moves

end Session

end GreenticDeployer.Lib
