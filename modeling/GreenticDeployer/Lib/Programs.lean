import GreenticDeployer.Lib.Runs

/-!
# Interleaved programs over a shared state

A program makes one atomic call at a time on a state it shares with others. A
pool holds any number of programs in flight; at each step one of them makes its
next call. What a program has learned from its own replies is kept beside it,
and a protocol says which calls that knowledge permits.
-/

set_option maxHeartbeats 200000

namespace GreenticDeployer.Lib

/-- A program whose calls are `C`, the reply to a call `c` being an `R c`. -/
inductive Program (C : Type) (R : C → Type) (α : Type) where
  | done (result : α)
  | call (c : C) (next : R c → Program C R α)

namespace Program

variable {C : Type} {R : C → Type} {α β κ : Type}

def bind : Program C R α → (α → Program C R β) → Program C R β
  | done result, f => f result
  | call c next, f => call c fun reply => (next reply).bind f

instance : Monad (Program C R) where
  pure := done
  bind := bind

def perform (c : C) : Program C R (R c) := call c done

@[simp] theorem pure_eq (result : α) : (pure result : Program C R α) = done result := rfl

@[simp] theorem done_bind (result : α) (f : α → Program C R β) :
    (done result >>= f) = f result := rfl

@[simp] theorem call_bind (c : C) (next : R c → Program C R α) (f : α → Program C R β) :
    (call c next >>= f) = call c fun reply => next reply >>= f := rfl

@[simp] theorem perform_bind (c : C) (f : R c → Program C R β) :
    (perform c >>= f) = call c f := rfl

/-- Every path of the program respects the protocol from knowledge `k` on, and
ends with a result the postcondition accepts. -/
def Obeys (allowed : κ → C → Prop) (learn : κ → (c : C) → R c → κ) (post : κ → α → Prop) :
    κ → Program C R α → Prop
  | k, done result => post k result
  | k, call c next => allowed k c ∧ ∀ reply, Obeys allowed learn post (learn k c reply) (next reply)

variable {allowed : κ → C → Prop} {learn : κ → (c : C) → R c → κ}

theorem Obeys.bind {post : κ → α → Prop} {post' : κ → β → Prop} {k : κ}
    {program : Program C R α} {f : α → Program C R β}
    (first : program.Obeys allowed learn post k)
    (rest : ∀ k result, post k result → (f result).Obeys allowed learn post' k) :
    (program >>= f).Obeys allowed learn post' k := by
  induction program generalizing k with
  | done result => exact rest k result first
  | call c next ih => exact ⟨first.1, fun reply => ih reply (first.2 reply)⟩

theorem Obeys.mono {post post' : κ → α → Prop} {k : κ} {program : Program C R α}
    (obeys : program.Obeys allowed learn post k)
    (weaker : ∀ k result, post k result → post' k result) :
    program.Obeys allowed learn post' k := by
  induction program generalizing k with
  | done result => exact weaker k result obeys
  | call c next ih => exact ⟨obeys.1, fun reply => ih reply (obeys.2 reply)⟩

theorem Obeys.both {κ' : Type} {allowed' : κ' → C → Prop} {learn' : κ' → (c : C) → R c → κ'}
    {post : κ → α → Prop} {post' : κ' → α → Prop} {k : κ} {k' : κ'} {program : Program C R α}
    (first : program.Obeys allowed learn post k) (second : program.Obeys allowed' learn' post' k') :
    program.Obeys (fun k c => allowed k.1 c ∧ allowed' k.2 c)
      (fun k c reply => (learn k.1 c reply, learn' k.2 c reply))
      (fun k result => post k.1 result ∧ post' k.2 result) (k, k') := by
  induction program generalizing k k' with
  | done result => exact ⟨first, second⟩
  | call c next ih =>
      exact ⟨⟨first.1, second.1⟩, fun reply => ih reply (first.2 reply) (second.2 reply)⟩

theorem Obeys.imp {allowed' : κ → C → Prop} {post : κ → α → Prop} {k : κ} {program : Program C R α}
    (obeys : program.Obeys allowed learn post k) (weaker : ∀ k c, allowed k c → allowed' k c) :
    program.Obeys allowed' learn post k := by
  induction program generalizing k with
  | done a => exact obeys
  | call c next ih => exact ⟨weaker k c obeys.1, fun reply => ih reply (obeys.2 reply)⟩

theorem Obeys.and {allowed' : κ → C → Prop} {post post' : κ → α → Prop} {k : κ}
    {program : Program C R α} (first : program.Obeys allowed learn post k)
    (second : program.Obeys allowed' learn post' k) :
    program.Obeys (fun k c => allowed k c ∧ allowed' k c) learn
      (fun k a => post k a ∧ post' k a) k := by
  induction program generalizing k with
  | done a => exact ⟨first, second⟩
  | call c next ih =>
      exact ⟨⟨first.1, second.1⟩, fun reply => ih reply (first.2 reply) (second.2 reply)⟩

def Only (fine : C → Prop) : Program C R α → Prop
  | done _ => True
  | call c next => fine c ∧ ∀ reply, Only fine (next reply)

theorem Only.bind {fine : C → Prop} {program : Program C R α} {f : α → Program C R β}
    (first : program.Only fine) (rest : ∀ a, (f a).Only fine) : (program >>= f).Only fine := by
  induction program with
  | done a => exact rest a
  | call c next ih => exact ⟨first.1, fun reply => ih reply (first.2 reply)⟩

theorem Only.mono {fine fine' : C → Prop} {program : Program C R α} (only : program.Only fine)
    (weaker : ∀ c, fine c → fine' c) : program.Only fine' := by
  induction program with
  | done a => exact trivial
  | call c next ih => exact ⟨weaker c only.1, fun reply => ih reply (only.2 reply)⟩

theorem Obeys.only {fine : C → Prop} {post : κ → α → Prop} {k : κ} {program : Program C R α}
    (obeys : program.Obeys allowed learn post k) (only : program.Only fine) :
    program.Obeys (fun k c => allowed k c ∧ fine c) learn post k := by
  induction program generalizing k with
  | done a => exact obeys
  | call c next ih => exact ⟨⟨obeys.1, only.1⟩, fun reply => ih reply (obeys.2 reply) (only.2 reply)⟩

def outcome? : Program C R α → Option α
  | done a => some a
  | call _ _ => none

def First (fine : C → Prop) : Program C R α → Prop
  | done _ => True
  | call c _ => fine c

instance (fine : C → Prop) [DecidablePred fine] :
    ∀ program : Program C R α, Decidable (program.First fine)
  | done _ => .isTrue trivial
  | call c _ => inferInstanceAs (Decidable (fine c))

theorem Only.obeys {fine : C → Prop} {post : κ → α → Prop} {program : Program C R α}
    (only : program.Only fine) (harmless : ∀ k c, fine c → allowed k c)
    (accepts : ∀ k a, post k a) (k : κ) : program.Obeys allowed learn post k := by
  induction program generalizing k with
  | done a => exact accepts k a
  | call c next ih => exact ⟨harmless k c only.1, fun reply => ih reply (only.2 reply) _⟩

/-- One program among others: before each of its calls the others do to the
shared state as they please. `none` where the schedule ends too soon. -/
def amid {σ ω ι : Type} (exec : ι → σ → (c : C) → R c × σ) (others : σ → ω → σ) :
    Program C R α → σ → List (ω × ι) → Option (α × σ)
  | done a, shared, _ => some (a, shared)
  | call _ _, _, [] => none
  | call c next, shared, (meanwhile, input) :: rest =>
    let outcome := exec input (others shared meanwhile) c
    amid exec others (next outcome.1) outcome.2 rest

/-- Run with no other program in between, whatever the inputs, a program ends as the
postcondition says. It may rely on the protocol it is known to obey. -/
def Alone {σ ι : Type} (allowed : κ → C → Prop) (learn : κ → (c : C) → R c → κ)
    (exec : ι → σ → (c : C) → R c × σ) (post : κ → σ → α → Prop) :
    κ → σ → Program C R α → Prop
  | k, shared, done a => post k shared a
  | k, shared, call c next => allowed k c → ∀ input,
    Alone allowed learn exec post (learn k c (exec input shared c).1) (exec input shared c).2
      (next (exec input shared c).1)

/-- The run with no other program in between, one input a call. `none` where the inputs end
too soon. -/
def solo {σ ι : Type} (exec : ι → σ → (c : C) → R c × σ) :
    Program C R α → σ → List ι → Option (α × σ)
  | done a, shared, _ => some (a, shared)
  | call _ _, _, [] => none
  | call c next, shared, input :: rest =>
    solo exec (next (exec input shared c).1) (exec input shared c).2 rest

section Alone

variable {σ ι : Type} {exec : ι → σ → (c : C) → R c × σ} {k : κ} {shared : σ}

theorem Alone.solo {post : κ → σ → α → Prop} {program : Program C R α}
    (alone : program.Alone allowed learn exec post k shared) (free : ∀ k c, allowed k c)
    {inputs : List ι} {a : α} {after : σ} (ran : program.solo exec shared inputs = some (a, after)) :
    ∃ k, post k after a := by
  induction program generalizing k shared inputs with
  | done a =>
      cases ran
      exact ⟨k, alone⟩
  | call c next ih =>
      cases inputs with
      | nil => cases ran
      | cons input rest => exact ih _ (alone (free k c) input) ran

theorem Alone.mono {post post' : κ → σ → α → Prop} {program : Program C R α}
    (alone : program.Alone allowed learn exec post k shared)
    (weaker : ∀ k later a, post k later a → post' k later a) :
    program.Alone allowed learn exec post' k shared := by
  induction program generalizing k shared with
  | done a => exact weaker k shared a alone
  | call c next ih => exact fun may input => ih _ (alone may input)

theorem Alone.bind {post : κ → σ → α → Prop} {post' : κ → σ → β → Prop} {program : Program C R α}
    {f : α → Program C R β} (first : program.Alone allowed learn exec post k shared)
    (rest : ∀ k later a, post k later a → (f a).Alone allowed learn exec post' k later) :
    (program >>= f).Alone allowed learn exec post' k shared := by
  induction program generalizing k shared with
  | done a => exact rest k shared a first
  | call c next ih => exact fun may input => ih _ (first may input)

end Alone

/-- A program that ends with a value or an error. -/
abbrev Fallible (C : Type) (R : C → Type) (ε α : Type) := ExceptT ε (Program C R) α

variable {ε : Type}

def lift (outcome : Except ε α) : Fallible C R ε α := ExceptT.mk (.done outcome)

/-- One call, its reply sorted into value and error. -/
def ask (c : C) (sort : R c → Except ε α) : Fallible C R ε α :=
  ExceptT.mk (.call c fun reply => .done (sort reply))

/-- Run a program; where it fails, go on from the error. -/
def rescue (program : Fallible C R ε α) (handle : ε → Fallible C R ε α) : Fallible C R ε α :=
  ExceptT.mk (program.run >>= fun outcome =>
    match outcome with
    | .ok a => .done (.ok a)
    | .error e => (handle e).run)

theorem Obeys.lift {post : κ → Except ε α → Prop} {k : κ} {outcome : Except ε α}
    (holds : post k outcome) :
    (Program.lift outcome : Fallible C R ε α).run.Obeys allowed learn post k := holds

theorem Obeys.ask {post : κ → Except ε α → Prop} {k : κ} {c : C} {sort : R c → Except ε α}
    (may : allowed k c) (holds : ∀ reply, post (learn k c reply) (sort reply)) :
    (Program.ask c sort : Fallible C R ε α).run.Obeys allowed learn post k :=
  ⟨may, holds⟩

/-- The rule for a statement and what follows it: an error skips the rest. -/
theorem Obeys.andThen {post : κ → Except ε α → Prop} {post' : κ → Except ε β → Prop} {k : κ}
    {program : Fallible C R ε α} {f : α → Fallible C R ε β}
    (first : program.run.Obeys allowed learn post k)
    (fails : ∀ k e, post k (.error e) → post' k (.error e))
    (rest : ∀ k a, post k (.ok a) → (f a).run.Obeys allowed learn post' k) :
    (program >>= f).run.Obeys allowed learn post' k := by
  refine Obeys.bind (f := ExceptT.bindCont f) first ?_
  intro k outcome reached
  cases outcome with
  | ok a => exact rest k a reached
  | error e => exact fails k e reached

theorem Obeys.liftThen {post : κ → Except ε β → Prop} {k : κ} {outcome : Except ε α}
    {f : α → Fallible C R ε β} (fails : ∀ e, outcome = .error e → post k (.error e))
    (rest : ∀ a, outcome = .ok a → (f a).run.Obeys allowed learn post k) :
    (Program.lift outcome >>= f).run.Obeys allowed learn post k := by
  cases outcome with
  | ok a => exact rest a rfl
  | error e => exact fails e rfl

theorem Obeys.forM {τ : Type} (loop : κ → Prop) {body : τ → Fallible C R ε PUnit}
    (items : List τ) {k : κ} (start : loop k)
    (turn : ∀ item ∈ items, ∀ k, loop k →
      (body item).run.Obeys allowed learn (fun k _ => loop k) k) :
    (items.forM body).run.Obeys allowed learn (fun k _ => loop k) k := by
  induction items generalizing k with
  | nil => exact start
  | cons item rest ih =>
      refine Obeys.andThen (turn item List.mem_cons_self k start) (fun _ _ held => held) ?_
      intro k _ held
      exact ih held fun other member => turn other (List.mem_cons_of_mem _ member)

theorem Only.andThen {fine : C → Prop} {program : Fallible C R ε α} {f : α → Fallible C R ε β}
    (first : program.run.Only fine) (rest : ∀ a, (f a).run.Only fine) :
    (program >>= f).run.Only fine := by
  refine Only.bind (f := ExceptT.bindCont f) first ?_
  intro outcome
  cases outcome with
  | ok a => exact rest a
  | error e => exact trivial

theorem Only.forM {τ : Type} {fine : C → Prop} {body : τ → Fallible C R ε PUnit}
    (items : List τ) (turn : ∀ item, (body item).run.Only fine) :
    (items.forM body).run.Only fine := by
  induction items with
  | nil => exact trivial
  | cons item rest ih => exact Only.andThen (turn item) fun _ => ih

theorem Only.rescue {fine : C → Prop} {program : Fallible C R ε α}
    {handle : ε → Fallible C R ε α} (first : program.run.Only fine)
    (rest : ∀ e, (handle e).run.Only fine) : (Program.rescue program handle).run.Only fine := by
  refine Only.bind first ?_
  intro outcome
  cases outcome with
  | ok a => exact trivial
  | error e => exact rest e

theorem Obeys.rescue {post post' : κ → Except ε α → Prop} {k : κ}
    {program : Fallible C R ε α} {handle : ε → Fallible C R ε α}
    (first : program.run.Obeys allowed learn post k)
    (succeeds : ∀ k a, post k (.ok a) → post' k (.ok a))
    (rest : ∀ k e, post k (.error e) → (handle e).run.Obeys allowed learn post' k) :
    (Program.rescue program handle).run.Obeys allowed learn post' k := by
  refine Obeys.bind first ?_
  intro k outcome reached
  cases outcome with
  | ok a => exact succeeds k a reached
  | error e => exact rest k e reached

section Alone

variable {σ ι : Type} {exec : ι → σ → (c : C) → R c × σ} {k : κ} {shared : σ}

theorem Alone.andThen {post : κ → σ → Except ε α → Prop} {post' : κ → σ → Except ε β → Prop}
    {program : Fallible C R ε α} {f : α → Fallible C R ε β}
    (first : program.run.Alone allowed learn exec post k shared)
    (fails : ∀ k later e, post k later (.error e) → post' k later (.error e))
    (rest : ∀ k later a, post k later (.ok a) → (f a).run.Alone allowed learn exec post' k later) :
    (program >>= f).run.Alone allowed learn exec post' k shared := by
  refine Alone.bind (f := ExceptT.bindCont f) first ?_
  intro k later outcome reached
  cases outcome with
  | ok a => exact rest k later a reached
  | error e => exact fails k later e reached

theorem Alone.liftThen {post : κ → σ → Except ε β → Prop} {outcome : Except ε α}
    {f : α → Fallible C R ε β} (fails : ∀ e, outcome = .error e → post k shared (.error e))
    (rest : ∀ a, outcome = .ok a → (f a).run.Alone allowed learn exec post k shared) :
    (Program.lift outcome >>= f).run.Alone allowed learn exec post k shared := by
  cases outcome with
  | ok a => exact rest a rfl
  | error e => exact fails e rfl

theorem Alone.rescue {post post' : κ → σ → Except ε α → Prop} {program : Fallible C R ε α}
    {handle : ε → Fallible C R ε α} (first : program.run.Alone allowed learn exec post k shared)
    (succeeds : ∀ k later a, post k later (.ok a) → post' k later (.ok a))
    (rest : ∀ k later e, post k later (.error e) →
      (handle e).run.Alone allowed learn exec post' k later) :
    (Program.rescue program handle).run.Alone allowed learn exec post' k shared := by
  refine Alone.bind first ?_
  intro k later outcome reached
  cases outcome with
  | ok a => exact succeeds k later a reached
  | error e => exact rest k later e reached

end Alone

end Program

/-- A program in flight: whose it is, what it has learned, what it still does. -/
structure Task (τ : Type) (C : Type) (R : C → Type) (κ α : Type) where
  tag : τ
  known : κ
  program : Program C R α

def Task.InFlight {τ C : Type} {R : C → Type} {κ α : Type} (task : Task τ C R κ α) : Prop :=
  ∃ c next, task.program = .call c next

instance {τ C : Type} {R : C → Type} {κ α : Type} (task : Task τ C R κ α) :
    Decidable task.InFlight :=
  match program : task.program with
  | .done _ => .isFalse (by
      rintro ⟨c, next, called⟩
      rw [program] at called
      cases called)
  | .call c next => .isTrue ⟨c, next, program⟩

structure Pool (σ τ : Type) (C : Type) (R : C → Type) (κ α : Type) where
  shared : σ
  tasks : List (Task τ C R κ α)

/-- What can happen to a pool: a program arrives, one in flight makes its next
call, or everything in flight is dropped and the shared state starts over. -/
inductive PoolAction (τ ι ε : Type) where
  | arrive (tag : τ)
  | advance (index : Nat) (input : ι)
  | restart (event : ε)

/-- The parts of an interleaved system: how a call runs, what a restart does,
which program a tag stands for and what it knows at first. -/
structure Interleaving (σ τ : Type) (C : Type) (R : C → Type) (κ α ι ε : Type) where
  exec : ι → σ → (c : C) → R c × σ
  reset : σ → ε → σ
  start : τ → κ
  body : τ → Program C R α
  learn : κ → (c : C) → R c → κ

namespace Interleaving

variable {σ τ C : Type} {R : C → Type} {κ α ι ε : Type}
variable (sys : Interleaving σ τ C R κ α ι ε)

/-- One call of one task. A finished task makes none. -/
def stepTask (input : ι) (shared : σ) (task : Task τ C R κ α) : σ × Task τ C R κ α :=
  match task.program with
  | .done _ => (shared, task)
  | .call c next =>
    let outcome := sys.exec input shared c
    (outcome.2, ⟨task.tag, sys.learn task.known c outcome.1, next outcome.1⟩)

def step (pool : Pool σ τ C R κ α) : PoolAction τ ι ε → Pool σ τ C R κ α
  | .arrive tag => { pool with tasks := pool.tasks ++ [⟨tag, sys.start tag, sys.body tag⟩] }
  | .advance index input =>
    match pool.tasks[index]? with
    | none => pool
    | some task =>
      let outcome := sys.stepTask input pool.shared task
      ⟨outcome.1, pool.tasks.set index outcome.2⟩
  | .restart event => ⟨sys.reset pool.shared event, []⟩

theorem step_call {pool : Pool σ τ C R κ α} {index : Nat} {task : Task τ C R κ α} {c : C}
    {next : R c → Program C R α} (found : pool.tasks[index]? = some task)
    (program : task.program = .call c next) (input : ι) :
    sys.step pool (.advance index input) = ⟨(sys.exec input pool.shared c).2,
      pool.tasks.set index ⟨task.tag, sys.learn task.known c (sys.exec input pool.shared c).1,
        next (sys.exec input pool.shared c).1⟩⟩ := by
  simp only [step, found, stepTask, program]

theorem turned {pool : Pool σ τ C R κ α} {index : Nat} {task : Task τ C R κ α} {c : C}
    {next : R c → Program C R α} (found : pool.tasks[index]? = some task)
    (program : task.program = .call c next) (input : ι) :
    (sys.step pool (.advance index input)).tasks[index]? =
      some ⟨task.tag, sys.learn task.known c (sys.exec input pool.shared c).1,
        next (sys.exec input pool.shared c).1⟩ := by
  rw [sys.step_call found program]
  exact List.getElem?_set_self (List.getElem?_eq_some_iff.mp found).1

theorem step_advance (pool : Pool σ τ C R κ α) (index : Nat) (input : ι) :
    (sys.step pool (.advance index input) = pool ∧
      ∀ task, pool.tasks[index]? = some task → ∃ result, task.program = .done result) ∨
    ∃ task c next, pool.tasks[index]? = some task ∧ task.program = .call c next ∧
      sys.step pool (.advance index input) = ⟨(sys.exec input pool.shared c).2,
        pool.tasks.set index ⟨task.tag, sys.learn task.known c (sys.exec input pool.shared c).1,
          next (sys.exec input pool.shared c).1⟩⟩ := by
  cases found : pool.tasks[index]? with
  | none => exact .inl ⟨by simp only [step, found], nofun⟩
  | some task =>
      cases program : task.program with
      | done result =>
          refine .inl ⟨?_, fun other same => ⟨result, by cases same; exact program⟩⟩
          obtain ⟨bound, rfl⟩ := List.getElem?_eq_some_iff.mp found
          simp only [step, found, stepTask, program, List.set_getElem_self]
      | call c next =>
          exact .inr ⟨task, c, next, rfl, program, sys.step_call found program input⟩

/-- The pool as a system, its actions restricted by a side condition. -/
def system (permitted : Pool σ τ C R κ α → PoolAction τ ι ε → Prop) :
    System (Pool σ τ C R κ α) (PoolAction τ ι ε) where
  step := sys.step
  allowed := permitted

theorem run_permitted (permitted permitted' : Pool σ τ C R κ α → PoolAction τ ι ε → Prop)
    (pool : Pool σ τ C R κ α) (actions : List (PoolAction τ ι ε)) :
    (sys.system permitted).run pool actions = (sys.system permitted').run pool actions := by
  induction actions generalizing pool with
  | nil => rfl
  | cons action rest ih => exact ih _

/-- A condition on the calls made, each in the state it meets. -/
def OnCalls (guard : ι → σ → C → Prop) (pool : Pool σ τ C R κ α) : PoolAction τ ι ε → Prop
  | .advance index input =>
    ∀ task ∈ pool.tasks[index]?, task.program.First (guard input pool.shared)
  | .arrive _ | .restart _ => True

instance (guard : ι → σ → C → Prop) [∀ input shared c, Decidable (guard input shared c)]
    (pool : Pool σ τ C R κ α) : ∀ action : PoolAction τ ι ε, Decidable (OnCalls guard pool action)
  | .advance index input => inferInstanceAs
      (Decidable (∀ task ∈ pool.tasks[index]?, task.program.First (guard input pool.shared)))
  | .arrive _ => .isTrue trivial
  | .restart _ => .isTrue trivial

theorem OnCalls.call {guard : ι → σ → C → Prop} {pool : Pool σ τ C R κ α} {index : Nat} {input : ι}
    {task : Task τ C R κ α} {c : C} {next : R c → Program C R α}
    (guarded : OnCalls guard pool (.advance index input : PoolAction τ ι ε))
    (found : pool.tasks[index]? = some task) (program : task.program = .call c next) :
    guard input pool.shared c := by
  have first := guarded task found
  rw [program] at first
  exact first

/-- What a protocol promises of a pool: the shared invariant, that what a task in
flight has learned is true, and that the rest of each program obeys. -/
structure Sound (allowed : τ → κ → C → Prop) (post : τ → κ → α → Prop) (Inv : σ → Prop)
    (True_ : τ → κ → σ → Prop) (pool : Pool σ τ C R κ α) : Prop where
  inv : Inv pool.shared
  known : ∀ task ∈ pool.tasks, task.InFlight → True_ task.tag task.known pool.shared
  obeys : ∀ task ∈ pool.tasks,
    task.program.Obeys (allowed task.tag) sys.learn (post task.tag) task.known

/-- The obligations of one permitted call, and of the other two actions. -/
structure Rules (permitted : Pool σ τ C R κ α → PoolAction τ ι ε → Prop)
    (allowed : τ → κ → C → Prop) (post : τ → κ → α → Prop) (Inv : σ → Prop)
    (True_ : τ → κ → σ → Prop) : Prop where
  body : ∀ tag, (sys.body tag).Obeys (allowed tag) sys.learn (post tag) (sys.start tag)
  start : ∀ tag shared, Inv shared → True_ tag (sys.start tag) shared
  reset : ∀ pool event, permitted pool (.restart event) → Inv pool.shared →
    Inv (sys.reset pool.shared event)
  inv : ∀ pool index input task c next, permitted pool (.advance index input) →
    pool.tasks[index]? = some task → task.program = .call c next →
    sys.Sound allowed post Inv True_ pool → Inv (sys.exec input pool.shared c).2
  learned : ∀ pool index input task c next, permitted pool (.advance index input) →
    pool.tasks[index]? = some task → task.program = .call c next →
    sys.Sound allowed post Inv True_ pool →
    True_ task.tag (sys.learn task.known c (sys.exec input pool.shared c).1)
      (sys.exec input pool.shared c).2
  stable : ∀ pool index input task c next, permitted pool (.advance index input) →
    pool.tasks[index]? = some task → task.program = .call c next →
    sys.Sound allowed post Inv True_ pool →
    ∀ other ∈ pool.tasks, other.InFlight → True_ other.tag other.known pool.shared →
      True_ other.tag other.known (sys.exec input pool.shared c).2

variable {permitted : Pool σ τ C R κ α → PoolAction τ ι ε → Prop}
variable {allowed : τ → κ → C → Prop} {post : τ → κ → α → Prop} {Inv : σ → Prop}
variable {True_ : τ → κ → σ → Prop}

theorem Sound.imp {sys : Interleaving σ τ C R κ α ι ε} {pool : Pool σ τ C R κ α}
    {Inv' : σ → Prop} {True' : τ → κ → σ → Prop} (sound : sys.Sound allowed post Inv True_ pool)
    (inv : ∀ shared, Inv shared → Inv' shared)
    (known : ∀ tag k shared, True_ tag k shared → True' tag k shared) :
    sys.Sound allowed post Inv' True' pool where
  inv := inv _ sound.inv
  known := fun task member inFlight => known _ _ _ (sound.known task member inFlight)
  obeys := sound.obeys

theorem Sound.acting {sys : Interleaving σ τ C R κ α ι ε} {pool : Pool σ τ C R κ α}
    (sound : sys.Sound allowed post Inv True_ pool) {index : Nat} {task : Task τ C R κ α} {c : C}
    {next : R c → Program C R α} (found : pool.tasks[index]? = some task)
    (program : task.program = .call c next) :
    allowed task.tag task.known c ∧ True_ task.tag task.known pool.shared := by
  have member := List.mem_of_getElem? found
  have obeyed := sound.obeys task member
  rw [program] at obeyed
  exact ⟨obeyed.1, sound.known task member ⟨c, next, program⟩⟩

/-- What holds of a task that arrives, and of every task after a turn, holds of every task
after any action. -/
theorem tasks_step {Q : Task τ C R κ α → σ → Prop} {pool : Pool σ τ C R κ α}
    {action : PoolAction τ ι ε} (held : ∀ task ∈ pool.tasks, Q task pool.shared)
    (arrives : ∀ tag, Q ⟨tag, sys.start tag, sys.body tag⟩ pool.shared)
    (others : ∀ index input task c next, action = .advance index input →
      pool.tasks[index]? = some task → task.program = .call c next →
      ∀ other ∈ pool.tasks, Q other pool.shared → Q other (sys.exec input pool.shared c).2)
    (turn : ∀ index input task c next, action = .advance index input →
      pool.tasks[index]? = some task → task.program = .call c next →
      Q ⟨task.tag, sys.learn task.known c (sys.exec input pool.shared c).1,
        next (sys.exec input pool.shared c).1⟩ (sys.exec input pool.shared c).2) :
    ∀ task ∈ (sys.step pool action).tasks, Q task (sys.step pool action).shared := by
  cases action with
  | arrive tag =>
      intro task member
      rcases List.mem_append.mp member with old | new
      · exact held task old
      · rw [List.mem_singleton.mp new]
        exact arrives tag
  | restart event => nofun
  | advance index input =>
      rcases sys.step_advance pool index input with
        ⟨same, _⟩ | ⟨task, c, next, found, program, stepped⟩
      · rw [same]
        exact held
      · rw [stepped]
        intro other member
        rcases List.mem_or_eq_of_mem_set member with old | rfl
        · exact others index input task c next rfl found program other old (held other old)
        · exact turn index input task c next rfl found program

theorem sound_step (rules : sys.Rules permitted allowed post Inv True_)
    (pool : Pool σ τ C R κ α) (action : PoolAction τ ι ε) (may : permitted pool action)
    (sound : sys.Sound allowed post Inv True_ pool) :
    sys.Sound allowed post Inv True_ (sys.step pool action) := by
  refine ⟨?_, ?_, ?_⟩
  · cases action with
    | arrive tag => exact sound.inv
    | restart event => exact rules.reset pool event may sound.inv
    | advance index input =>
        rcases sys.step_advance pool index input with
          ⟨same, _⟩ | ⟨task, c, next, found, program, stepped⟩
        · rw [same]
          exact sound.inv
        · rw [stepped]
          exact rules.inv pool index input task c next may found program sound
  · refine sys.tasks_step (Q := fun task shared => task.InFlight → True_ task.tag task.known shared)
      sound.known (fun tag _ => rules.start tag _ sound.inv) ?_ ?_
    · rintro index input task c next rfl found program other member holds inFlight
      exact rules.stable pool index input task c next may found program sound other member
        inFlight (holds inFlight)
    · rintro index input task c next rfl found program _
      exact rules.learned pool index input task c next may found program sound
  · refine sys.tasks_step (Q := fun task _ =>
      task.program.Obeys (allowed task.tag) sys.learn (post task.tag) task.known)
      sound.obeys rules.body (fun _ _ _ _ _ _ _ _ other _ obeys => obeys) ?_
    intro index input task c next _ found program
    have obeyed := sound.obeys task (List.mem_of_getElem? found)
    rw [program] at obeyed
    exact obeyed.2 _

/-- The invariant rule for interleaved programs: a pool whose programs obey
their protocol stays sound along every permitted run. -/
theorem sound_run (rules : sys.Rules permitted allowed post Inv True_)
    (pool : Pool σ τ C R κ α) (actions : List (PoolAction τ ι ε))
    (admits : (sys.system permitted).Admits pool actions)
    (sound : sys.Sound allowed post Inv True_ pool) :
    sys.Sound allowed post Inv True_ ((sys.system permitted).run pool actions) :=
  (sys.system permitted).run_invariant _
    (fun pool action may => sys.sound_step rules pool action may) pool actions admits sound

theorem sound_empty {shared : σ} (initial : Inv shared) :
    sys.Sound allowed post Inv True_ ⟨shared, []⟩ := ⟨initial, by nofun, by nofun⟩

section Stretch

variable (among : τ → Prop) (moves : σ → σ → Prop) {pool : Pool σ τ C R κ α}

theorem stretch_step (refl : ∀ s, moves s s)
    (reset : ∀ pool event, permitted pool (.restart event) →
      moves pool.shared (sys.reset pool.shared event))
    (exec : ∀ pool index input task c next, permitted pool (.advance index input) →
      pool.tasks[index]? = some task → task.program = .call c next →
      sys.Sound allowed post Inv True_ pool → among task.tag →
      moves pool.shared (sys.exec input pool.shared c).2)
    {action : PoolAction τ ι ε} (may : permitted pool action)
    (sound : sys.Sound allowed post Inv True_ pool)
    (inside : ∀ task ∈ pool.tasks, task.InFlight → among task.tag)
    (arrives : ∀ tag, action = .arrive tag → among tag) :
    moves pool.shared (sys.step pool action).shared ∧
      ∀ task ∈ (sys.step pool action).tasks, task.InFlight → among task.tag := by
  cases action with
  | arrive tag =>
      refine ⟨refl _, fun task member inFlight => ?_⟩
      rcases List.mem_append.mp member with old | new
      · exact inside task old inFlight
      · rw [List.mem_singleton.mp new]
        exact arrives tag rfl
  | restart event => exact ⟨reset pool event may, nofun⟩
  | advance index input =>
      rcases sys.step_advance pool index input with
        ⟨same, _⟩ | ⟨task, c, next, found, program, stepped⟩
      · rw [same]
        exact ⟨refl _, inside⟩
      · have acting := inside task (List.mem_of_getElem? found) ⟨c, next, program⟩
        rw [stepped]
        refine ⟨exec pool index input task c next may found program sound acting, ?_⟩
        intro other member inFlight
        rcases List.mem_or_eq_of_mem_set member with old | rfl
        · exact inside other old inFlight
        · exact acting

theorem stretch_run (rules : sys.Rules permitted allowed post Inv True_) (refl : ∀ s, moves s s)
    (trans : ∀ s t u, moves s t → moves t u → moves s u)
    (reset : ∀ pool event, permitted pool (.restart event) →
      moves pool.shared (sys.reset pool.shared event))
    (exec : ∀ pool index input task c next, permitted pool (.advance index input) →
      pool.tasks[index]? = some task → task.program = .call c next →
      sys.Sound allowed post Inv True_ pool → among task.tag →
      moves pool.shared (sys.exec input pool.shared c).2)
    {actions : List (PoolAction τ ι ε)} (admits : (sys.system permitted).Admits pool actions)
    (sound : sys.Sound allowed post Inv True_ pool)
    (inside : ∀ task ∈ pool.tasks, task.InFlight → among task.tag)
    (arrives : ∀ tag, .arrive tag ∈ actions → among tag) :
    moves pool.shared ((sys.system permitted).run pool actions).shared := by
  induction actions generalizing pool with
  | nil => exact refl _
  | cons action rest ih =>
      obtain ⟨moved, still⟩ := sys.stretch_step among moves refl reset exec admits.1 sound inside
        fun tag same => arrives tag (same ▸ List.mem_cons_self)
      exact trans _ _ _ moved (ih admits.2 (sys.sound_step rules pool action admits.1 sound) still
        fun tag member => arrives tag (List.mem_cons_of_mem _ member))

end Stretch

theorem shared_run (rules : sys.Rules permitted allowed post Inv True_) (P : σ → Prop)
    (reset : ∀ pool event, permitted pool (.restart event) → P pool.shared →
      P (sys.reset pool.shared event))
    (exec : ∀ pool index input task c next, permitted pool (.advance index input) →
      pool.tasks[index]? = some task → task.program = .call c next →
      sys.Sound allowed post Inv True_ pool → P pool.shared → P (sys.exec input pool.shared c).2)
    (shared : σ) (actions : List (PoolAction τ ι ε))
    (admits : (sys.system permitted).Admits ⟨shared, []⟩ actions) (initial : Inv shared)
    (holds : P shared) :
    P ((sys.system permitted).run ⟨shared, []⟩ actions).shared := by
  refine ((sys.system permitted).run_invariant
    (fun pool => sys.Sound allowed post Inv True_ pool ∧ P pool.shared) ?_ _ actions admits
    ⟨sys.sound_empty initial, holds⟩).2
  rintro pool action may ⟨sound, held⟩
  refine ⟨sys.sound_step rules pool action may sound, ?_⟩
  cases action with
  | arrive tag => exact held
  | restart event => exact reset pool event may held
  | advance index input =>
      have turn := sys.step_advance pool index input
      rcases turn with ⟨same, _⟩ | ⟨task, c, next, found, program, stepped⟩
      · simp only [system, same]
        exact held
      · simp only [system, stepped]
        exact exec pool index input task c next may found program sound held

/-- What a program learned stays true after it is finished, where no call of any
program undoes it. -/
theorem known_run (rules : sys.Rules permitted allowed post Inv True_)
    (stable : ∀ pool index input task c next, permitted pool (.advance index input) →
      pool.tasks[index]? = some task → task.program = .call c next →
      sys.Sound allowed post Inv True_ pool → ∀ tag k, True_ tag k pool.shared →
        True_ tag k (sys.exec input pool.shared c).2)
    (shared : σ) (actions : List (PoolAction τ ι ε))
    (admits : (sys.system permitted).Admits ⟨shared, []⟩ actions) (initial : Inv shared) :
    ∀ task ∈ ((sys.system permitted).run ⟨shared, []⟩ actions).tasks,
      True_ task.tag task.known ((sys.system permitted).run ⟨shared, []⟩ actions).shared := by
  refine ((sys.system permitted).run_invariant
    (fun pool => sys.Sound allowed post Inv True_ pool ∧
      ∀ task ∈ pool.tasks, True_ task.tag task.known pool.shared) ?_ _ actions admits
    ⟨sys.sound_empty initial, nofun⟩).2
  rintro pool action may ⟨sound, held⟩
  refine ⟨sys.sound_step rules pool action may sound, ?_⟩
  refine sys.tasks_step (Q := fun task shared => True_ task.tag task.known shared) held
    (fun tag => rules.start tag _ sound.inv) ?_ ?_
  · rintro index input task c next rfl found program other member holds
    exact stable pool index input task c next may found program sound _ _ holds
  · rintro index input task c next rfl found program
    exact rules.learned pool index input task c next may found program sound

/-- What holds of every program that arrives, with what it knows at first, and of
what is left of it after each reply, with what it then knows, holds of every
program in every run. -/
theorem tasks_run (P : τ → κ → Program C R α → Prop)
    (body : ∀ tag, P tag (sys.start tag) (sys.body tag))
    (rest : ∀ tag k c next reply, P tag k (.call c next) → P tag (sys.learn k c reply) (next reply))
    (shared : σ) (actions : List (PoolAction τ ι ε)) :
    ∀ task ∈ ((sys.system fun _ _ => True).run ⟨shared, []⟩ actions).tasks,
      P task.tag task.known task.program := by
  refine (sys.system fun _ _ => True).run_invariant
    (fun pool => ∀ task ∈ pool.tasks, P task.tag task.known task.program) ?_ _ actions
    ((sys.system fun _ _ => True).admits_of_allowed (fun _ _ => trivial) _ _) nofun
  intro pool action _ held
  refine sys.tasks_step (Q := fun task _ => P task.tag task.known task.program) held body
    (fun _ _ _ _ _ _ _ _ other _ holds => holds) ?_
  intro index input task c next _ found program
  refine rest task.tag task.known c next _ ?_
  rw [← program]
  exact held task (List.mem_of_getElem? found)

end Interleaving

end GreenticDeployer.Lib
