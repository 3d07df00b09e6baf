import GreenticDeployer.Lib.Programs

/-!
# Programs that may be cut off

One program alone on its state, with an input for each call that decides how the
call turns out. It may be cut off before any of its calls. A crash invariant
holds wherever that happens, a postcondition where the program ends.
-/

set_option maxHeartbeats 200000

namespace GreenticDeployer.Lib

namespace Program

variable {C : Type} {R : C → Type} {σ ι α β ε : Type} (exec : ι → σ → (c : C) → R c × σ)

/-- The state after as many calls as there are inputs, or at the end. -/
def cut : Program C R α → σ → List ι → σ
  | done _, state, _ => state
  | call _ _, state, [] => state
  | call c next, state, input :: rest =>
    let outcome := exec input state c
    cut (next outcome.1) outcome.2 rest

/-- The end of a program that is not cut off. -/
def finish : Program C R α → σ → (Nat → ι) → α × σ
  | done result, state, _ => (result, state)
  | call c next, state, inputs =>
    let outcome := exec (inputs 0) state c
    finish (next outcome.1) outcome.2 fun n => inputs (n + 1)

/-- The invariant wherever the program is cut off, the postcondition at its end,
however the calls turn out among the inputs considered. -/
def Safe (among : ι → Prop) (inv : σ → Prop) (post : α → σ → Prop) : Program C R α → σ → Prop
  | done result, state => inv state ∧ post result state
  | call c next, state => inv state ∧ ∀ input, among input →
      Safe among inv post (next (exec input state c).1) (exec input state c).2

/-- A program with a continuation passes through its own end. -/
theorem cut_bind (program : Program C R α) (f : α → Program C R β) (state : σ) (inputs : Nat → ι) :
    ∃ n, (program >>= f).cut exec state ((List.range n).map inputs) =
      (program.finish exec state inputs).2 := by
  induction program generalizing state inputs with
  | done result =>
      refine ⟨0, ?_⟩
      simp only [done_bind, List.range_zero, List.map_nil, finish]
      cases f result <;> rfl
  | call c next ih =>
      obtain ⟨n, passed⟩ := ih (exec (inputs 0) state c).1 (exec (inputs 0) state c).2
        fun n => inputs (n + 1)
      refine ⟨n + 1, ?_⟩
      rw [List.range_succ_eq_map, List.map_cons, List.map_map]
      exact passed

variable {exec} {among : ι → Prop} {inv : σ → Prop}

theorem Safe.here {post : α → σ → Prop} {program : Program C R α} {state : σ}
    (safe : program.Safe exec among inv post state) : inv state := by
  cases program with
  | done result => exact safe.1
  | call c next => exact safe.1

theorem Safe.cut {post : α → σ → Prop} {program : Program C R α} {state : σ}
    (safe : program.Safe exec among inv post state) (inputs : List ι)
    (considered : ∀ input ∈ inputs, among input) : inv (program.cut exec state inputs) := by
  induction program generalizing state inputs with
  | done result => exact safe.1
  | call c next ih =>
      cases inputs with
      | nil => exact safe.1
      | cons input rest =>
          exact ih _ (safe.2 input (considered input List.mem_cons_self)) rest
            fun later member => considered later (List.mem_cons_of_mem _ member)

theorem Safe.finish {post : α → σ → Prop} {program : Program C R α} {state : σ}
    (safe : program.Safe exec among inv post state) (inputs : Nat → ι)
    (considered : ∀ n, among (inputs n)) :
    post (program.finish exec state inputs).1 (program.finish exec state inputs).2 := by
  induction program generalizing state inputs with
  | done result => exact safe.2
  | call c next ih =>
      exact ih _ (safe.2 (inputs 0) (considered 0)) _ fun n => considered (n + 1)

theorem Safe.mono {inv' : σ → Prop} {post post' : α → σ → Prop} {program : Program C R α}
    {state : σ} (safe : program.Safe exec among inv post state)
    (weaker : ∀ state, inv state → inv' state)
    (ends : ∀ result state, inv state → post result state → post' result state) :
    program.Safe exec among inv' post' state := by
  induction program generalizing state with
  | done result => exact ⟨weaker state safe.1, ends result state safe.1 safe.2⟩
  | call c next ih =>
      exact ⟨weaker state safe.1, fun input considered => ih _ (safe.2 input considered)⟩

theorem Safe.bind {post : α → σ → Prop} {post' : β → σ → Prop} {program : Program C R α}
    {f : α → Program C R β} {state : σ} (first : program.Safe exec among inv post state)
    (rest : ∀ result state, inv state → post result state →
      (f result).Safe exec among inv post' state) :
    (program >>= f).Safe exec among inv post' state := by
  induction program generalizing state with
  | done result => exact rest result state first.1 first.2
  | call c next ih => exact ⟨first.1, fun input considered => ih _ (first.2 input considered)⟩

theorem Only.safe {fine : C → Prop} {program : Program C R α} {state : σ}
    (only : program.Only fine)
    (kept : ∀ c state input, fine c → among input → inv state → inv (exec input state c).2)
    (held : inv state) : program.Safe exec among inv (fun _ => inv) state := by
  induction program generalizing state with
  | done result => exact ⟨held, held⟩
  | call c next ih =>
      exact ⟨held, fun input considered =>
        ih _ (only.2 _) (kept c state input only.1 considered held)⟩

/-- An error skips the rest. -/
theorem Safe.andThen (post : Except ε α → σ → Prop) {post' : Except ε β → σ → Prop}
    {program : Fallible C R ε α} {f : α → Fallible C R ε β} {state : σ}
    (first : program.run.Safe exec among inv post state)
    (fails : ∀ e state, inv state → post (.error e) state → post' (.error e) state)
    (rest : ∀ result state, inv state → post (.ok result) state →
      (f result).run.Safe exec among inv post' state) :
    (program >>= f).run.Safe exec among inv post' state := by
  refine Safe.bind (f := ExceptT.bindCont f) first ?_
  intro outcome state held reached
  cases outcome with
  | ok result => exact rest result state held reached
  | error e => exact ⟨held, fails e state held reached⟩

/-- One call, its reply sorted into value and error. -/
theorem Safe.ask {post : Except ε α → σ → Prop} {c : C} {sort : R c → Except ε α} {state : σ}
    (held : inv state) (kept : ∀ input, among input → inv (exec input state c).2)
    (ends : ∀ input, among input → post (sort (exec input state c).1) (exec input state c).2) :
    (Program.ask c sort : Fallible C R ε α).run.Safe exec among inv post state :=
  ⟨held, fun input considered => ⟨kept input considered, ends input considered⟩⟩

theorem Safe.lift {post : Except ε α → σ → Prop} {outcome : Except ε α} {state : σ}
    (held : inv state) (holds : post outcome state) :
    (Program.lift outcome : Fallible C R ε α).run.Safe exec among inv post state := ⟨held, holds⟩

theorem Safe.rescue (post : Except ε α → σ → Prop) {post' : Except ε α → σ → Prop}
    {program : Fallible C R ε α} {handle : ε → Fallible C R ε α} {state : σ}
    (first : program.run.Safe exec among inv post state)
    (succeeds : ∀ result state, inv state → post (.ok result) state → post' (.ok result) state)
    (rest : ∀ e state, inv state → post (.error e) state →
      (handle e).run.Safe exec among inv post' state) :
    (Program.rescue program handle).run.Safe exec among inv post' state := by
  refine Safe.bind first ?_
  intro outcome state held reached
  cases outcome with
  | ok result => exact ⟨held, succeeds result state held reached⟩
  | error e => exact rest e state held reached

theorem Safe.forM (loop : List α → σ → Prop) {post : Except ε PUnit → σ → Prop}
    {body : α → Fallible C R ε PUnit} (items : List α) {state : σ} (start : loop items state)
    (turn : ∀ item rest state, inv state → loop (item :: rest) state →
      (body item).run.Safe exec among inv (fun outcome state =>
        match outcome with
        | .ok _ => loop rest state
        | .error e => post (.error e) state) state)
    (holds : ∀ items state, loop items state → inv state)
    (ends : ∀ state, inv state → loop [] state → post (.ok ⟨⟩) state) :
    (items.forM body).run.Safe exec among inv post state := by
  induction items generalizing state with
  | nil => exact ⟨holds [] state start, ends state (holds [] state start) start⟩
  | cons item rest ih =>
      have first := turn item rest state (holds _ state start) start
      refine Safe.andThen _ first (fun _ _ _ failed => failed) ?_
      intro _ state _ reached
      exact ih reached

/-- The result where the inputs are enough to reach it. -/
def outcome (exec : ι → σ → (c : C) → R c × σ) : Program C R α → σ → List ι → Option α
  | done result, _, _ => some result
  | call _ _, _, [] => none
  | call c next, state, input :: rest =>
    outcome exec (next (exec input state c).1) (exec input state c).2 rest

theorem Safe.outcome {post : α → σ → Prop} {program : Program C R α} {state : σ}
    (safe : program.Safe exec among inv post state) (inputs : List ι)
    (considered : ∀ input ∈ inputs, among input) {result : α}
    (returned : program.outcome exec state inputs = some result) :
    post result (program.cut exec state inputs) := by
  induction program generalizing state inputs with
  | done value =>
      cases returned
      exact safe.2
  | call c next ih =>
      cases inputs with
      | nil => cases returned
      | cons input rest =>
          exact ih _ (safe.2 input (considered input List.mem_cons_self)) rest
            (fun later member => considered later (List.mem_cons_of_mem _ member)) returned

def Ends (exec : ι → σ → (c : C) → R c × σ) (post : Except ε α → σ → Prop)
    (program : Fallible C R ε α) (state : σ) : Prop :=
  program.run.Safe exec (fun _ => True) (fun _ => True) post state

section Ends

variable {post : Except ε α → σ → Prop} {state : σ}

theorem Ends.pure {value : α} (holds : post (.ok value) state) :
    Ends exec post (Pure.pure value : Fallible C R ε α) state := ⟨trivial, holds⟩

theorem Ends.throw {e : ε} (holds : post (.error e) state) :
    Ends exec post (MonadExcept.throw e : Fallible C R ε α) state := ⟨trivial, holds⟩

theorem Ends.ask {c : C} {sort : R c → Except ε α}
    (holds : ∀ input, post (sort (exec input state c).1) (exec input state c).2) :
    Ends exec post (Program.ask c sort) state :=
  ⟨trivial, fun input _ => ⟨trivial, holds input⟩⟩

theorem Ends.mono {post' : Except ε α → σ → Prop} {program : Fallible C R ε α}
    (ends : Ends exec post program state)
    (weaker : ∀ outcome next, post outcome next → post' outcome next) :
    Ends exec post' program state :=
  Safe.mono ends (fun _ _ => trivial) fun outcome next _ => weaker outcome next

theorem Ends.andThen (post : Except ε α → σ → Prop) {post' : Except ε β → σ → Prop}
    {program : Fallible C R ε α} {f : α → Fallible C R ε β} (first : Ends exec post program state)
    (fails : ∀ e next, post (.error e) next → post' (.error e) next)
    (rest : ∀ value next, post (.ok value) next → Ends exec post' (f value) next) :
    Ends exec post' (program >>= f) state :=
  Safe.andThen post first (fun e next _ => fails e next) fun value next _ => rest value next

theorem Ends.rescue (post : Except ε α → σ → Prop) {post' : Except ε α → σ → Prop}
    {program : Fallible C R ε α} {handle : ε → Fallible C R ε α}
    (first : Ends exec post program state)
    (succeeds : ∀ value next, post (.ok value) next → post' (.ok value) next)
    (rest : ∀ e next, post (.error e) next → Ends exec post' (handle e) next) :
    Ends exec post' (Program.rescue program handle) state :=
  Safe.rescue post first (fun value next _ => succeeds value next) fun e next _ => rest e next

theorem Ends.read {post : Except ε β → σ → Prop} {program : Fallible C R ε α}
    {f : α → Fallible C R ε β} {value : α}
    (first : Ends exec (fun outcome next => next = state ∧ outcome = .ok value) program state)
    (rest : Ends exec post (f value) state) : Ends exec post (program >>= f) state := by
  refine first.andThen _ (fun _ _ failed => by cases failed.2) ?_
  rintro found next ⟨rfl, same⟩
  cases same
  exact rest

/-- One condition where the program succeeds, another where it fails. -/
def Either (holds : σ → Prop) (fails : ε → σ → Prop) (outcome : Except ε α) (state : σ) : Prop :=
  match outcome with
  | .ok _ => holds state
  | .error e => fails e state

theorem Ends.forM (loop : List α → σ → Prop) {fails : ε → σ → Prop}
    {body : α → Fallible C R ε PUnit} (items : List α) {state : σ} (start : loop items state)
    (turn : ∀ item rest state, loop (item :: rest) state →
      Ends exec (Either (loop rest) fails) (body item) state) :
    Ends exec (Either (loop []) fails) (items.forM body) state := by
  induction items generalizing state with
  | nil => exact .pure start
  | cons item rest ih =>
      have first := turn item rest state start
      exact first.andThen _ (fun _ _ failed => failed) fun _ next reached => ih reached

/-- A part that cannot fail. -/
theorem Ends.sure {post : Except ε β → σ → Prop} {holds : σ → Prop} {program : Fallible C R ε α}
    {f : α → Fallible C R ε β} (first : Ends exec (Either holds fun _ _ => False) program state)
    (rest : ∀ value next, holds next → Ends exec post (f value) next) :
    Ends exec post (program >>= f) state :=
  first.andThen _ (fun _ _ failed => failed.elim) rest

/-- A loop whose turns all return keeps what each of them keeps. -/
theorem Ends.loop {holds : σ → Prop} {body : α → Fallible C R ε PUnit} (items : List α)
    {state : σ} (start : holds state)
    (turn : ∀ item ∈ items, ∀ state, holds state →
      Ends exec (Either holds fun _ _ => False) (body item) state) :
    Ends exec (Either holds fun _ _ => False) (items.forM body) state := by
  have looped : Ends exec (Either (fun next => holds next ∧ [] ⊆ items) fun _ _ => False)
      (items.forM body) state := by
    refine Ends.forM (fun rest next => holds next ∧ rest ⊆ items) items
      ⟨start, List.Subset.refl _⟩ ?_
    intro item rest state ⟨held, inside⟩
    refine (turn item (inside List.mem_cons_self) state held).mono fun outcome next ended => ?_
    cases outcome with
    | ok _ => exact ⟨ended, fun other member => inside (List.mem_cons_of_mem _ member)⟩
    | error e => exact ended
  refine looped.mono fun outcome next ended => ?_
  cases outcome with
  | ok _ => exact ended.1
  | error e => exact ended

theorem Ends.finish {program : Fallible C R ε α} (ends : Ends exec post program state)
    (inputs : Nat → ι) :
    post (program.run.finish exec state inputs).1 (program.run.finish exec state inputs).2 :=
  Safe.finish ends inputs fun _ => trivial

theorem Ends.always {program : Fallible C R ε α} (holds : ∀ outcome next, post outcome next) :
    Ends exec post program state := by
  have anywhere : ∀ (program : Program C R (Except ε α)) (state : σ),
      program.Safe exec (fun _ => True) (fun _ => True) post state := by
    intro program
    induction program with
    | done outcome => exact fun state => ⟨trivial, holds outcome state⟩
    | call c next ih => exact fun state => ⟨trivial, fun input _ => ih _ _⟩
  exact anywhere program.run state

/-- A program that starts with a call goes on from its reply. -/
theorem finish_ask {c : C} {sort : R c → Except ε α} {f : α → Fallible C R ε β} (value : α)
    {inputs : Nat → ι} (replied : sort (exec (inputs 0) state c).1 = .ok value) :
    (Program.ask c sort >>= f).run.finish exec state inputs =
      (f value).run.finish exec (exec (inputs 0) state c).2 fun n => inputs (n + 1) := by
  have unfolded : (Program.ask c sort >>= f).run.finish exec state inputs =
      (ExceptT.bindCont f (sort (exec (inputs 0) state c).1)).finish exec
        (exec (inputs 0) state c).2 fun n => inputs (n + 1) := rfl
  rw [unfolded, replied]
  rfl

end Ends

/-- The state with the calls made so far, each with the state it met. -/
def recorded (exec : ι → σ → (c : C) → R c × σ) (input : ι) (state : σ × List (σ × C)) (c : C) :
    R c × σ × List (σ × C) :=
  ((exec input state.1 c).1, (exec input state.1 c).2, state.2 ++ [(state.1, c)])

theorem cut_recorded (program : Program C R α) (state : σ) (log : List (σ × C))
    (inputs : List ι) :
    (program.cut (recorded exec) (state, log) inputs).1 = program.cut exec state inputs := by
  induction program generalizing state log inputs with
  | done result => rfl
  | call c next ih =>
      cases inputs with
      | nil => rfl
      | cons input rest => exact ih _ _ _ rest

theorem outcome_recorded (program : Program C R α) (state : σ) (log : List (σ × C))
    (inputs : List ι) :
    program.outcome (recorded exec) (state, log) inputs = program.outcome exec state inputs := by
  induction program generalizing state log inputs with
  | done result => rfl
  | call c next ih =>
      cases inputs with
      | nil => rfl
      | cons input rest => exact ih _ _ _ rest

/-- From a state with the invariant: the invariant wherever the program is cut
off, the condition at each of its calls, the postcondition where it succeeds. -/
def Careful (exec : ι → σ → (c : C) → R c × σ) (may : σ → C → Prop) (inv : σ → Prop)
    (post : α → σ → Prop) (program : Fallible C R ε α) (state : σ) : Prop :=
  ∀ log : List (σ × C), (∀ entry ∈ log, may entry.1 entry.2) → inv state →
    program.run.Safe (recorded exec) (fun _ => True)
      (fun state => inv state.1 ∧ ∀ entry ∈ state.2, may entry.1 entry.2)
      (fun outcome state => ∀ value, outcome = .ok value → post value state.1) (state, log)

section Careful

variable {may : σ → C → Prop} {post : α → σ → Prop} {state : σ}

theorem Careful.of_inv {program : Fallible C R ε α}
    (careful : inv state → Careful exec may inv post program state) :
    Careful exec may inv post program state :=
  fun log fine held => careful held log fine held

theorem Careful.pure {value : α} (holds : inv state → post value state) :
    Careful exec may inv post (Pure.pure value : Fallible C R ε α) state := by
  intro log fine held
  refine ⟨⟨held, fine⟩, ?_⟩
  rintro _ ⟨⟩
  exact holds held

theorem Careful.throw (e : ε) :
    Careful exec may inv post (MonadExcept.throw e : Fallible C R ε α) state := by
  intro log fine held
  exact ⟨⟨held, fine⟩, fun _ wrong => by cases wrong⟩

theorem Careful.ask {c : C} {sort : R c → Except ε α} (fine : inv state → may state c)
    (kept : ∀ input, inv state → inv (exec input state c).2)
    (ends : ∀ input value, inv state → sort (exec input state c).1 = .ok value →
      post value (exec input state c).2) :
    Careful exec may inv post (Program.ask c sort) state := by
  intro log before held
  refine ⟨⟨held, before⟩, fun input _ => ⟨⟨kept input held, ?_⟩, ?_⟩⟩
  · intro entry member
    rcases List.mem_append.mp member with old | new
    · exact before entry old
    · rw [List.mem_singleton.mp new]
      exact fine held
  · intro value returned
    exact ends input value held returned

theorem Careful.andThen (post : α → σ → Prop) {post' : β → σ → Prop} {program : Fallible C R ε α}
    {f : α → Fallible C R ε β} (first : Careful exec may inv post program state)
    (rest : ∀ value next, post value next → Careful exec may inv post' (f value) next) :
    Careful exec may inv post' (program >>= f) state := by
  intro log fine held
  refine Safe.andThen _ (first log fine held) (fun e _ _ _ _ wrong => by cases wrong) ?_
  rintro value ⟨next, log⟩ ⟨held, fine⟩ reached
  exact rest value next (reached value rfl) log fine held

theorem Careful.lift {outcome : Except ε α}
    (holds : ∀ value, outcome = .ok value → inv state → post value state) :
    Careful exec may inv post (Program.lift outcome : Fallible C R ε α) state := by
  cases outcome with
  | ok value => exact Careful.pure fun held => holds value rfl held
  | error e => exact Careful.throw e

theorem Careful.rescue {program : Fallible C R ε α} {value : α}
    (first : Careful exec may inv post program state)
    (fails : ∀ next, inv next → post value next) :
    Careful exec may inv post (Program.rescue program fun _ => Pure.pure value) state := by
  intro log fine held
  refine Safe.rescue _ (first log fine held) (fun _ _ _ ended => ended) ?_
  rintro e ⟨next, log⟩ kept -
  refine ⟨kept, ?_⟩
  rintro _ ⟨⟩
  exact fails next kept.1

/-- A part that leaves the state as it is, and what follows it. -/
theorem Careful.reads {post : β → σ → Prop} {program : Fallible C R ε α}
    {f : α → Fallible C R ε β} (answer : α → Prop)
    (first : Careful exec may inv (fun value next => next = state ∧ answer value) program state)
    (rest : ∀ value, answer value → Careful exec may inv post (f value) state) :
    Careful exec may inv post (program >>= f) state :=
  first.andThen _ fun value _ read => read.1 ▸ rest value read.2

theorem Careful.checks {post : β → σ → Prop} {outcome : Except ε α} {f : α → Fallible C R ε β}
    (rest : ∀ value, outcome = .ok value → Careful exec may inv post (f value) state) :
    Careful exec may inv post ((Program.lift outcome : Fallible C R ε α) >>= f) state :=
  Careful.reads (fun value => outcome = .ok value)
    (Careful.lift fun _ passed _ => ⟨rfl, passed⟩) rest

theorem Careful.mono {post' : α → σ → Prop} {program : Fallible C R ε α}
    (careful : Careful exec may inv post program state)
    (weaker : ∀ value next, inv next → post value next → post' value next) :
    Careful exec may inv post' program state := by
  intro log fine held
  refine (careful log fine held).mono (fun _ same => same) ?_
  intro outcome next kept ended value returned
  exact weaker value next.1 kept.1 (ended value returned)

theorem Careful.forEach (ambient : σ → Prop) (fact : α → σ → Prop) {body : α → Fallible C R ε PUnit}
    (items : List α) {state : σ} (start : ambient state)
    (turn : ∀ item ∈ items, ∀ state, ambient state → Careful exec may inv (fun _ next =>
      ambient next ∧ fact item next ∧ ∀ other, fact other state → fact other next)
        (body item) state) :
    Careful exec may inv (fun _ next => ambient next ∧ (∀ item ∈ items, fact item next) ∧
      ∀ other, fact other state → fact other next) (items.forM body) state := by
  induction items generalizing state with
  | nil => exact Careful.pure fun _ => ⟨start, nofun, fun _ same => same⟩
  | cons item rest ih =>
      have first := turn item List.mem_cons_self state start
      refine first.andThen _ fun _ next reached => ?_
      have others := ih reached.1 fun other member => turn other (List.mem_cons_of_mem _ member)
      refine others.mono fun _ last _ ended => ⟨ended.1, ?_, ?_⟩
      · intro other member
        rcases List.mem_cons.mp member with rfl | later
        · exact ended.2.2 other reached.2.1
        · exact ended.2.1 other later
      · intro other held
        exact ended.2.2 other (reached.2.2 other held)

/-- A loop whose turns keep what holds before each. -/
theorem Careful.forM (ambient : σ → Prop) {body : α → Fallible C R ε PUnit} (items : List α)
    {state : σ} (start : ambient state)
    (turn : ∀ item ∈ items, ∀ state, ambient state →
      Careful exec may inv (fun _ next => ambient next) (body item) state) :
    Careful exec may inv (fun _ next => ambient next) (items.forM body) state := by
  have each : Careful exec may inv (fun _ next => ambient next ∧ (∀ item ∈ items, True) ∧
      ∀ _ : α, True → True) (items.forM body) state :=
    Careful.forEach ambient (fun _ _ => True) items start fun item member state held =>
      (turn item member state held).mono fun _ _ _ kept => ⟨kept, trivial, fun _ _ => trivial⟩
  exact each.mono fun _ _ _ ended => ended.1

/-- A part of a program may keep more than the whole does. -/
theorem Careful.within {inv' : σ → Prop} {program : Fallible C R ε α} (held : inv' state)
    (weaker : ∀ state, inv' state → inv state)
    (careful : Careful exec may inv' post program state) :
    Careful exec may inv (fun value next => inv' next ∧ post value next) program state := by
  intro log fine _
  refine (careful log fine held).mono (fun state kept => ⟨weaker state.1 kept.1, kept.2⟩) ?_
  intro outcome next kept ended value returned
  exact ⟨kept.1, ended value returned⟩

theorem Careful.cut {program : Fallible C R ε α} (careful : Careful exec may inv post program state)
    (held : inv state) (inputs : List ι) : inv (program.run.cut exec state inputs) := by
  have safe := (careful [] (by simp) held).cut inputs fun _ _ => trivial
  rw [← cut_recorded program.run state []]
  exact safe.1

theorem Careful.calls {program : Fallible C R ε α}
    (careful : Careful exec may inv post program state) (held : inv state) (inputs : List ι) :
    ∀ entry ∈ (program.run.cut (recorded exec) (state, []) inputs).2, may entry.1 entry.2 :=
  ((careful [] (by simp) held).cut inputs fun _ _ => trivial).2

theorem Careful.outcome {program : Fallible C R ε α}
    (careful : Careful exec may inv post program state) (held : inv state) (inputs : List ι)
    {value : α} (returned : program.run.outcome exec state inputs = some (.ok value)) :
    post value (program.run.cut exec state inputs) := by
  have safe := careful [] (by simp) held
  rw [← outcome_recorded program.run state []] at returned
  have ended := safe.outcome inputs (fun _ _ => trivial) returned
  rw [← cut_recorded program.run state []]
  exact ended value rfl

end Careful

end Program

namespace Interleaving

variable {σ τ C : Type} {R : C → Type} {κ α ι ε : Type}

/-- A pool of programs none of which changes the shared state, however its calls turn
out: the state stays, and each program ends as it would alone. -/
theorem untouched_run (sys : Interleaving σ τ C R κ α ι ε) {shared : σ} {post : α → Prop}
    (reset : ∀ event, sys.reset shared event = shared) (actions : List (PoolAction τ ι ε))
    (untouched : ∀ tag, .arrive tag ∈ actions →
      (sys.body tag).Safe sys.exec (fun _ => True) (· = shared) (fun a _ => post a) shared)
    (pool : Pool σ τ C R κ α) (start : pool.shared = shared)
    (held : ∀ task ∈ pool.tasks,
      task.program.Safe sys.exec (fun _ => True) (· = shared) (fun a _ => post a) shared) :
    ((sys.system fun _ _ => True).run pool actions).shared = shared ∧
      ∀ task ∈ ((sys.system fun _ _ => True).run pool actions).tasks,
        task.program.Safe sys.exec (fun _ => True) (· = shared) (fun a _ => post a) shared := by
  induction actions generalizing pool with
  | nil => exact ⟨start, held⟩
  | cons action rest ih =>
      have later : ∀ tag, .arrive tag ∈ rest → (sys.body tag).Safe sys.exec (fun _ => True)
          (· = shared) (fun a _ => post a) shared :=
        fun tag member => untouched tag (List.mem_cons_of_mem _ member)
      cases action with
      | arrive tag =>
          refine ih later _ start fun task member => ?_
          rcases List.mem_append.mp member with old | new
          · exact held task old
          · rw [List.mem_singleton.mp new]
            exact untouched tag List.mem_cons_self
      | restart event =>
          refine ih later _ ?_ nofun
          rw [← start] at reset
          exact (reset event).trans start
      | advance index input =>
          rcases sys.step_advance pool index input with
            ⟨same, _⟩ | ⟨task, c, next, found, program, stepped⟩
          · have still : (sys.system fun _ _ => True).step pool (.advance index input) = pool := same
            rw [System.run, still]
            exact ih later pool start held
          · have safe := held task (List.mem_of_getElem? found)
            rw [program] at safe
            have turn := safe.2 input trivial
            have kept : (sys.exec input shared c).2 = shared := turn.here
            rw [kept] at turn
            have after : (sys.system fun _ _ => True).step pool (.advance index input) = _ := stepped
            rw [System.run, after, start]
            refine ih later _ kept fun other member => ?_
            rcases List.mem_or_eq_of_mem_set member with old | rfl
            · exact held other old
            · exact turn

end Interleaving

end GreenticDeployer.Lib
