import Mathlib.Data.List.Chain

/-!
# Runs of a deterministic system

A system reads one action at a time. What an action needs from outside the
system (a fresh identifier, say) is its `allowed` side condition; a run is any
list of actions, each allowed in the state it meets.
-/

set_option maxHeartbeats 200000

namespace GreenticDeployer.Lib

structure System (σ α : Type*) where
  step : σ → α → σ
  allowed : σ → α → Prop

namespace System

variable {σ α : Type*} (sys : System σ α)

def Admits : σ → List α → Prop
  | _, [] => True
  | state, action :: rest => sys.allowed state action ∧ Admits (sys.step state action) rest

instance decidableAdmits [∀ state action, Decidable (sys.allowed state action)] :
    ∀ state actions, Decidable (sys.Admits state actions)
  | _, [] => .isTrue trivial
  | state, action :: rest =>
    have := decidableAdmits (sys.step state action) rest
    inferInstanceAs (Decidable (sys.allowed state action ∧ _))

def run : σ → List α → σ
  | state, [] => state
  | state, action :: rest => run (sys.step state action) rest

/-- Every state a run visits, the first one included. -/
def states : σ → List α → List σ
  | state, [] => [state]
  | state, action :: rest => state :: states (sys.step state action) rest

def restrict (condition : σ → α → Prop) : System σ α where
  step := sys.step
  allowed := fun state action => sys.allowed state action ∧ condition state action

theorem run_restrict (condition : σ → α → Prop) (state : σ) (actions : List α) :
    (sys.restrict condition).run state actions = sys.run state actions := by
  induction actions generalizing state with
  | nil => rfl
  | cons action rest ih => exact ih (sys.step state action)

theorem run_append (state : σ) (left right : List α) :
    sys.run state (left ++ right) = sys.run (sys.run state left) right := by
  induction left generalizing state with
  | nil => rfl
  | cons action rest ih => exact ih (sys.step state action)

theorem admits_append (state : σ) (left right : List α) :
    sys.Admits state (left ++ right) ↔
      sys.Admits state left ∧ sys.Admits (sys.run state left) right := by
  induction left generalizing state with
  | nil => simp [Admits, run]
  | cons action rest ih => simp [Admits, run, ih, and_assoc]

theorem admits_of_allowed (always : ∀ state action, sys.allowed state action) (state : σ)
    (actions : List α) : sys.Admits state actions := by
  induction actions generalizing state with
  | nil => trivial
  | cons action rest ih => exact ⟨always state action, ih _⟩

/-- The invariant rule: what holds first and survives each allowed step holds
in every state of every run. -/
theorem invariant (Inv : σ → Prop)
    (preserved : ∀ state action, sys.allowed state action → Inv state →
      Inv (sys.step state action))
    (state : σ) (actions : List α) (admits : sys.Admits state actions) (initial : Inv state) :
    ∀ visited ∈ sys.states state actions, Inv visited := by
  induction actions generalizing state with
  | nil =>
      intro visited member
      rw [List.mem_singleton.mp member]
      exact initial
  | cons action rest ih =>
      intro visited member
      rcases List.mem_cons.mp member with rfl | later
      · exact initial
      · exact ih _ admits.2 (preserved state action admits.1 initial) visited later

theorem run_invariant (Inv : σ → Prop)
    (preserved : ∀ state action, sys.allowed state action → Inv state →
      Inv (sys.step state action))
    (state : σ) (actions : List α) (admits : sys.Admits state actions) (initial : Inv state) :
    Inv (sys.run state actions) := by
  induction actions generalizing state with
  | nil => exact initial
  | cons action rest ih => exact ih _ admits.2 (preserved state action admits.1 initial)

theorem run_mem_states (state : σ) (actions : List α) :
    sys.run state actions ∈ sys.states state actions := by
  induction actions generalizing state with
  | nil => exact List.mem_singleton_self state
  | cons action rest ih => exact List.mem_cons_of_mem _ (ih _)

theorem restrict_admits {condition condition' : σ → α → Prop} (Inv : σ → Prop)
    (preserved : ∀ state action, sys.allowed state action → condition state action → Inv state →
      Inv (sys.step state action))
    (implied : ∀ state action, Inv state → condition state action → condition' state action)
    (state : σ) (actions : List α) (admits : (sys.restrict condition).Admits state actions)
    (initial : Inv state) : (sys.restrict condition').Admits state actions := by
  induction actions generalizing state with
  | nil => trivial
  | cons action rest ih =>
      obtain ⟨⟨allowed, holds⟩, remaining⟩ := admits
      exact ⟨⟨allowed, implied state action initial holds⟩,
        ih _ remaining (preserved state action allowed holds initial)⟩

/-- The step rule: a relation each allowed step establishes from an invariant
state links every two consecutive states of every run. -/
theorem chain (Inv : σ → Prop) (R : σ → σ → Prop)
    (preserved : ∀ state action, sys.allowed state action → Inv state →
      Inv (sys.step state action))
    (linked : ∀ state action, sys.allowed state action → Inv state →
      R state (sys.step state action))
    (state : σ) (actions : List α) (admits : sys.Admits state actions) (initial : Inv state) :
    (sys.states state actions).IsChain R := by
  induction actions generalizing state with
  | nil => exact List.isChain_singleton _
  | cons action rest ih =>
      have tail := ih _ admits.2 (preserved state action admits.1 initial)
      have head := linked state action admits.1 initial
      cases rest with
      | nil => exact List.isChain_pair.mpr head
      | cons next more => exact List.isChain_cons_cons.mpr ⟨head, tail⟩

end System

end GreenticDeployer.Lib
