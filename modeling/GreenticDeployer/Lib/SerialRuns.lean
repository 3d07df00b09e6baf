import GreenticDeployer.Lib.RowTransactions

/-!
# Interleaved clients, one operation at a time

Any number of clients at one database. Every run has a serial one that leads to the
same rows and answers every client alike, and that only grows as the run goes on: an
operation takes its place in it while its client waits for the answer.
-/

set_option maxHeartbeats 200000

namespace GreenticDeployer.Lib.Rows

variable {K R α τ : Type} [DecidableEq K]

/-- Clients that carry out their operations in dialogues. -/
def database (references : K → Option K) (dialogue : τ → Dialogue K R α) :
    Interleaving (Store K R) τ (Statement K R) Statement.Reply Unit (Except DriverError α) Delivery
      Empty where
  exec := execute references
  reset := fun s _ => s
  start := fun _ => ()
  body := dialogue
  learn := fun _ _ _ => ()

abbrev Client (K R α τ : Type) :=
  Task τ (Statement K R) Statement.Reply Unit (Except DriverError α)

abbrev Clients (K R α τ : Type) :=
  Pool (Store K R) τ (Statement K R) Statement.Reply Unit (Except DriverError α)

abbrev Move (τ : Type) := PoolAction τ Delivery Empty

def Waits : Clients K R α τ → Move τ → Prop :=
  Interleaving.OnCalls fun _ s st => Free s st

def databaseRuns (references : K → Option K) (dialogue : τ → Dialogue K R α) :
    System (Clients K R α τ) (Move τ) :=
  (database references dialogue).system Waits

instance (references : K → Option K) (dialogue : τ → Dialogue K R α) (pool : Clients K R α τ)
    (move : Move τ) : Decidable ((databaseRuns references dialogue).allowed pool move) :=
  inferInstanceAs (Decidable (Interleaving.OnCalls (fun _ s st => Free s st) pool move))

/-- Clients, each by its number, served one after another: what they are answered, and
the rows in the end. -/
def oneByOne (operation : τ → Operation K R α) (history : List (Nat × τ)) :
    List (Nat × α) × (K → Option R) :=
  history.foldl (fun served entry =>
    (served.1 ++ [(entry.1, ((operation entry.2).apply served.2).1)],
      ((operation entry.2).apply served.2).2)) ([], fun _ => none)

section OneByOne

variable {operation : τ → Operation K R α} {history : List (Nat × τ)}

theorem oneByOne_snoc (entry : Nat × τ) : oneByOne operation (history ++ [entry]) =
    ((oneByOne operation history).1 ++
        [(entry.1, ((operation entry.2).apply (oneByOne operation history).2).1)],
      ((operation entry.2).apply (oneByOne operation history).2).2) := by
  simp only [oneByOne, List.foldl_append, List.foldl_cons, List.foldl_nil]

theorem oneByOne_numbers :
    (oneByOne operation history).1.map (·.1) = history.map (·.1) := by
  induction history using List.reverseRecOn with
  | nil => rfl
  | append_singleton rest entry ih =>
      rw [oneByOne_snoc, List.map_append, ih, List.map_append]
      rfl

/-- The answer of a client, if it has been served. -/
def answerOf (operation : τ → Operation K R α) (history : List (Nat × τ)) (i : Nat) : Option α :=
  (oneByOne operation history).1.lookup i

theorem answerOf_snoc_self {i : Nat} {tag : τ} (unserved : answerOf operation history i = none) :
    answerOf operation (history ++ [(i, tag)]) i =
      some ((operation tag).apply (oneByOne operation history).2).1 := by
  unfold answerOf at unserved ⊢
  rw [oneByOne_snoc, List.lookup_append, unserved, List.lookup_cons_self]
  rfl

theorem answerOf_snoc_other {i j : Nat} {tag : τ} (apart : j ≠ i) :
    answerOf operation (history ++ [(i, tag)]) j = answerOf operation history j := by
  unfold answerOf
  rw [oneByOne_snoc, List.lookup_append]
  have differs : (j == i) = false := beq_false_of_ne apart
  have none : List.lookup j [(i, ((operation tag).apply (oneByOne operation history).2).1)] =
      none := by
    simp only [List.lookup_cons, differs, List.lookup_nil]
  rw [none, Option.or_none]

theorem answerOf_none {i : Nat} :
    answerOf operation history i = none ↔ i ∉ history.map (·.1) := by
  rw [answerOf, ← @oneByOne_numbers _ _ _ _ _ operation, List.lookup_eq_none_iff]
  constructor
  · intro unserved member
    obtain ⟨entry, inside, rfl⟩ := List.mem_map.mp member
    exact absurd (unserved entry inside) (by simp)
  · intro absent entry inside
    have other : i ≠ entry.1 := fun same => absent (same ▸ List.mem_map.mpr ⟨entry, inside, rfl⟩)
    simpa using other

theorem answerOf_some {i : Nat} {a : α} (served : answerOf operation history i = some a) :
    (i, a) ∈ (oneByOne operation history).1 := by
  obtain ⟨before, after, split, _⟩ := List.lookup_eq_some_iff.mp served
  rw [split]
  exact List.mem_append_right _ List.mem_cons_self

/-- Each answer is given on the rows that those before it have left. -/
theorem mem_oneByOne {i : Nat} {a : α} : (i, a) ∈ (oneByOne operation history).1 ↔
    ∃ past tag later, history = past ++ (i, tag) :: later ∧
      a = ((operation tag).apply (oneByOne operation past).2).1 := by
  induction history using List.reverseRecOn with
  | nil =>
      constructor
      · exact fun member => absurd member List.not_mem_nil
      · rintro ⟨past, tag, later, split, _⟩
        cases past <;> cases split
  | append_singleton rest entry ih =>
      rw [oneByOne_snoc, List.mem_append, List.mem_singleton, ih]
      constructor
      · rintro (⟨past, tag, later, rfl, answered⟩ | same)
        · exact ⟨past, tag, later ++ [entry], by simp, answered⟩
        · obtain ⟨rfl, rfl⟩ := Prod.mk.inj same
          exact ⟨rest, entry.2, [], rfl, rfl⟩
      · rintro ⟨past, tag, later, split, rfl⟩
        rcases List.eq_nil_or_concat later with rfl | ⟨more, last, rfl⟩
        · obtain ⟨rfl, own⟩ := List.append_inj' split rfl
          cases own
          exact .inr rfl
        · rw [List.concat_eq_append, ← List.cons_append, ← List.append_assoc] at split
          obtain ⟨rfl, _⟩ := List.append_inj' split rfl
          exact .inl ⟨past, tag, more, rfl, rfl⟩

/-- Nobody is answered twice. -/
theorem oneByOne_unique (once : (history.map (·.1)).Nodup) {i : Nat} {a b : α}
    (first : (i, a) ∈ (oneByOne operation history).1)
    (second : (i, b) ∈ (oneByOne operation history).1) : a = b := by
  rw [← @oneByOne_numbers _ _ _ _ _ operation] at once
  exact congrArg Prod.snd (List.inj_on_of_nodup_map once first second rfl)

end OneByOne

/-- A history of the clients served so far: the rows are as it leaves them, nobody is in it
twice, and what is left of each dialogue agrees with the answer its client has in it. -/
structure Serial (operation : τ → Operation K R α) (pool : Clients K R α τ)
    (history : List (Nat × τ)) : Prop where
  rows : pool.shared.rows = (oneByOne operation history).2
  once : (history.map (·.1)).Nodup
  known : ∀ entry ∈ history, ∃ task, pool.tasks[entry.1]? = some task ∧ task.tag = entry.2
  stages : ∀ (i : Nat) (task : Client K R α τ), pool.tasks[i]? = some task →
    Stage pool.shared (operation task.tag) (answerOf operation history i) task.program
  begun : ∀ (i : Nat) (task : Client K R α τ) (xid : Nat), pool.tasks[i]? = some task →
    inTransaction task.program = some xid → xid < pool.shared.nextXid
  apart : ∀ (i j : Nat) (task other : Client K R α τ) (xid : Nat), pool.tasks[i]? = some task →
    pool.tasks[j]? = some other → inTransaction task.program = some xid →
    inTransaction other.program = some xid → i = j

section Serial

variable {operation : τ → Operation K R α} {pool : Clients K R α τ} {history : List (Nat × τ)}
variable {references : K → Option K} {dialogue : τ → Dialogue K R α}

theorem Serial.empty : Serial operation ⟨Store.empty, []⟩ [] where
  rows := rfl
  once := List.nodup_nil
  known := fun _ member => absurd member List.not_mem_nil
  stages := fun i task found => by simp at found
  begun := fun i task xid found => by simp at found
  apart := fun i j task other xid found => by simp at found

theorem Stage.first (s : Store K R) (op : Operation K R α) :
    ∃ landed, Stage s op landed op.dialogue ∧ inTransaction op.dialogue.run = none ∧
      (landed = none ∨ landed = some (op.apply s.rows).1 ∧ (op.apply s.rows).2 = s.rows) := by
  cases op with
  | answer a => exact ⟨some a, .answered, rfl, .inr ⟨rfl, rfl⟩⟩
  | read key conclude => exact ⟨none, .toRead, rfl, .inl rfl⟩
  | create key row won lost => exact ⟨none, .toCreate, rfl, .inl rfl⟩
  | locked key absent present => exact ⟨none, .toBegin, rfl, .inl rfl⟩

theorem Serial.served {i : Nat} (serial : Serial operation pool history)
    (served : i ∈ history.map (·.1)) : i < pool.tasks.length := by
  obtain ⟨entry, inside, rfl⟩ := List.mem_map.mp served
  obtain ⟨task, found, _⟩ := serial.known entry inside
  exact (List.getElem?_eq_some_iff.mp found).1

theorem Lands.place {tag : τ} {i : Nat} {before after : K → Option R} {landed : Option α}
    (lands : Lands (operation tag) before after (answerOf operation history i) landed)
    (rows : before = (oneByOne operation history).2) :
    ∃ more, (more = [] ∨ more = [(i, tag)] ∧ i ∉ history.map (·.1)) ∧
      after = (oneByOne operation (history ++ more)).2 ∧
      answerOf operation (history ++ more) i = landed ∧
      ∀ j, j ≠ i → answerOf operation (history ++ more) j = answerOf operation history j := by
  rcases lands with ⟨rfl, rfl⟩ | ⟨unserved, rfl, rfl⟩
  · exact ⟨[], .inl rfl, by rw [List.append_nil, rows], by rw [List.append_nil],
      fun _ _ => by rw [List.append_nil]⟩
  · refine ⟨[(i, tag)], .inr ⟨rfl, answerOf_none.mp unserved⟩, ?_, ?_, ?_⟩
    · rw [oneByOne_snoc, rows]
    · rw [answerOf_snoc_self unserved, rows]
    · exact fun j apart => answerOf_snoc_other apart

theorem Serial.turn (later : Clients K R α τ) (i : Nat) (tag : τ) {landed : Option α}
    {p : Program (Statement K R) Statement.Reply (Except DriverError α)}
    (serial : Serial operation pool history) (acting : later.tasks[i]? = some ⟨tag, (), p⟩)
    (owner : ∀ task, pool.tasks[i]? = some task → task.tag = tag)
    (others : ∀ j, j ≠ i → later.tasks[j]? = pool.tasks[j]?)
    (stage : Stage later.shared (operation tag) landed p)
    (lands : Lands (operation tag) pool.shared.rows later.shared.rows
      (answerOf operation history i) landed)
    (spared : ∀ (j : Nat) (task : Client K R α τ), j ≠ i → pool.tasks[j]? = some task →
      Stage later.shared (operation task.tag) (answerOf operation history j) task.program)
    (grows : pool.shared.nextXid ≤ later.shared.nextXid)
    (fresh : ∀ x, inTransaction p = some x → x < later.shared.nextXid ∧
      ∀ (j : Nat) (task : Client K R α τ), j ≠ i → pool.tasks[j]? = some task →
        inTransaction task.program ≠ some x) :
    ∃ more, (more = [] ∨ more = [(i, tag)]) ∧ Serial operation later (history ++ more) := by
  obtain ⟨more, shape, rows, own, rest⟩ := Lands.place lands serial.rows
  have former : ∀ (j : Nat) (task : Client K R α τ), j ≠ i → later.tasks[j]? = some task →
      pool.tasks[j]? = some task := fun j task apart found => others j apart ▸ found
  have self : ∀ task, later.tasks[i]? = some task → task = ⟨tag, (), p⟩ := fun task found =>
    (Option.some.inj (acting.symm.trans found)).symm
  refine ⟨more, shape.imp id (·.1), rows, ?_, ?_, ?_, ?_, ?_⟩
  · rcases shape with rfl | ⟨rfl, unserved⟩
    · rw [List.append_nil]
      exact serial.once
    · rw [List.map_append, List.nodup_append]
      refine ⟨serial.once, List.nodup_singleton _, ?_⟩
      rintro j inside _ new rfl
      have same : j = i := List.mem_singleton.mp new
      exact unserved (same ▸ inside)
  · intro entry member
    rcases List.mem_append.mp member with old | new
    · obtain ⟨task, found, tagged⟩ := serial.known entry old
      by_cases same : entry.1 = i
      · exact ⟨_, same ▸ acting, (owner task (same ▸ found)).symm.trans tagged⟩
      · exact ⟨task, (others entry.1 same).trans found, tagged⟩
    · rcases shape with rfl | ⟨rfl, _⟩
      · exact absurd new List.not_mem_nil
      · rw [List.mem_singleton.mp new]
        exact ⟨_, acting, rfl⟩
  · intro j task found
    by_cases same : j = i
    · subst same
      rw [self task found, own]
      exact stage
    · rw [rest j same]
      exact spared j task same (former j task same found)
  · intro j task x found speaks
    by_cases same : j = i
    · subst same
      rw [self task found] at speaks
      exact (fresh x speaks).1
    · exact (serial.begun j task x (former j task same found) speaks).trans_le grows
  · intro j k task other x found alongside speaks answers
    by_cases first : j = i <;> by_cases second : k = i
    · exact first.trans second.symm
    · subst first
      rw [self task found] at speaks
      exact absurd answers ((fresh x speaks).2 k other second (former k other second alongside))
    · subst second
      rw [self other alongside] at answers
      exact absurd speaks ((fresh x answers).2 j task first (former j task first found))
    · exact serial.apart j k task other x (former j task first found)
        (former k other second alongside) speaks answers

/-- A client arrives. One that needs no database is answered at once. -/
theorem Serial.arrive (references : K → Option K) (tag : τ)
    (dialogued : dialogue tag = (operation tag).dialogue)
    (serial : Serial operation pool history) :
    ∃ more, (more = [] ∨ more = [(pool.tasks.length, tag)]) ∧
      Serial operation ((database references dialogue).step pool (.arrive tag))
        (history ++ more) := by
  obtain ⟨landed, stage, idle, lands⟩ := Stage.first pool.shared (operation tag)
  have unserved : answerOf operation history pool.tasks.length = none :=
    answerOf_none.mpr fun served => absurd (serial.served served) (lt_irrefl _)
  have fresh : pool.tasks[pool.tasks.length]? = none := List.getElem?_eq_none le_rfl
  refine serial.turn _ pool.tasks.length tag List.getElem?_concat_length ?_ ?_
    (dialogued ▸ stage) ?_ ?_ le_rfl ?_
  · intro task found
    cases fresh.symm.trans found
  · intro j apart
    rcases lt_or_gt_of_ne apart with below | above
    · exact List.getElem?_append_left below
    · rw [List.getElem?_eq_none above.le]
      refine List.getElem?_eq_none ?_
      show (pool.tasks ++ [_]).length ≤ j
      rw [List.length_append]
      exact above
  · rw [unserved]
    rcases lands with rfl | ⟨rfl, same⟩
    · exact .still rfl
    · exact .inr ⟨rfl, rfl, same.symm⟩
  · exact fun j task _ found => serial.stages j task found
  · intro x speaks
    have begun : inTransaction (dialogue tag).run = some x := speaks
    rw [dialogued] at begun
    cases idle.symm.trans begun

/-- A client takes its turn. -/
theorem Serial.advance (references : K → Option K) (dialogue : τ → Dialogue K R α) {i : Nat}
    {delivery : Delivery}     (serial : Serial operation pool history)
    (waits : Waits pool (.advance i delivery : Move τ)) :
    ∃ more, (more = [] ∨ ∃ task, pool.tasks[i]? = some task ∧ task.InFlight ∧
        more = [(i, task.tag)]) ∧
      Serial operation ((database references dialogue).step pool (.advance i delivery))
        (history ++ more) := by
  rcases (database references dialogue).step_advance pool i delivery with
    ⟨same, _⟩ | ⟨task, st, next, found, program, stepped⟩
  · exact ⟨[], .inl rfl, by rw [same, List.append_nil]; exact serial⟩
  · have free : Free pool.shared st := Interleaving.OnCalls.call waits found program
    have stage := serial.stages i task found
    have continues := stage.continues
    have turns : Turns references _ _ _ task.program := stage.turns
    rw [program] at continues turns
    obtain ⟨landed, onward, lands⟩ := turns free delivery
    have distinct : ∀ (j : Nat) (other : Client K R α τ) (x : Nat), j ≠ i →
        pool.tasks[j]? = some other → inTransaction other.program = some x →
        st.xid ≠ some x := by
      intro j other x apart alongside speaks own
      refine apart (serial.apart j i other task x alongside found speaks ?_)
      rw [program]
      exact own
    rw [stepped]
    obtain ⟨more, shape, moved⟩ := serial.turn
      ⟨(execute references delivery pool.shared st).2, pool.tasks.set i ⟨task.tag, (),
        next (execute references delivery pool.shared st).1⟩⟩ i task.tag
      (List.getElem?_set_self (List.getElem?_eq_some_iff.mp found).1)
      (fun other same => by cases found.symm.trans same; rfl)
      (fun j apart => List.getElem?_set_ne apart.symm) onward lands
      (fun j other apart alongside =>
        (serial.stages j other alongside).spared free fun x speaks =>
          distinct j other x apart alongside speaks)
      execute_nextXid
      (by
        intro x speaks
        rcases continues _ x speaks with own | opens
        · refine ⟨?_, fun j other apart alongside speaks =>
            distinct j other x apart alongside speaks own⟩
          refine lt_of_lt_of_le (serial.begun i task x found ?_) execute_nextXid
          rw [program]
          exact own
        · obtain ⟨rfl, next⟩ := execute_opens opens
          refine ⟨next ▸ Nat.lt_succ_self _, fun j other _ alongside speaks => ?_⟩
          exact absurd (serial.begun j other _ alongside speaks) (lt_irrefl _))
    exact ⟨more, shape.imp id fun new => ⟨task, found, ⟨st, next, program⟩, new⟩, moved⟩

/-- The clients that are still waiting for their answer, and those to come. -/
def Unanswered (pool : Clients K R α τ) (i : Nat) : Prop :=
  ∀ task, pool.tasks[i]? = some task → task.InFlight

theorem Serial.step (references : K → Option K)
    (dialogued : ∀ tag, dialogue tag = (operation tag).dialogue) {move : Move τ}
    (serial : Serial operation pool history) (waits : Waits pool move) :
    ∃ more, (∀ entry ∈ more, Unanswered pool entry.1) ∧
      Serial operation ((database references dialogue).step pool move) (history ++ more) := by
  cases move with
  | arrive tag =>
      obtain ⟨more, shape, after⟩ := serial.arrive references tag (dialogued tag)
      refine ⟨more, fun entry member task found => ?_, after⟩
      rcases shape with rfl | rfl
      · exact absurd member List.not_mem_nil
      · rw [List.mem_singleton.mp member, List.getElem?_eq_none le_rfl] at found
        cases found
  | advance i delivery =>
      obtain ⟨more, shape, after⟩ := serial.advance references dialogue waits
      refine ⟨more, fun entry member task found => ?_, after⟩
      rcases shape with rfl | ⟨acting, present, inFlight, rfl⟩
      · exact absurd member List.not_mem_nil
      · rw [List.mem_singleton.mp member] at found
        cases present.symm.trans found
        exact inFlight
  | restart event => exact event.elim

/-- An answered client stays answered. -/
theorem Unanswered.earlier {move : Move τ} {i : Nat}
    (later : Unanswered ((database references dialogue).step pool move) i) : Unanswered pool i := by
  intro task found
  cases result : task.program with
  | call st next => exact ⟨st, next, result⟩
  | done answer =>
      have stays : ((database references dialogue).step pool move).tasks[i]? = some task := by
        have bound := (List.getElem?_eq_some_iff.mp found).1
        cases move with
        | arrive tag => exact (List.getElem?_append_left bound).trans found
        | restart event => exact event.elim
        | advance j delivery =>
            rcases (database references dialogue).step_advance pool j delivery with
              ⟨same, _⟩ | ⟨acting, st, next, present, program, stepped⟩
            · rw [same]
              exact found
            · rw [stepped]
              refine (List.getElem?_set_ne ?_).trans found
              rintro rfl
              cases present.symm.trans found
              cases result.symm.trans program
      exact later task stays

theorem Serial.run (dialogued : ∀ tag, dialogue tag = (operation tag).dialogue)
    (serial : Serial operation pool history) (moves : List (Move τ))
    (admits : (databaseRuns references dialogue).Admits pool moves) :
    ∃ more, (∀ entry ∈ more, Unanswered pool entry.1) ∧
      Serial operation ((databaseRuns references dialogue).run pool moves) (history ++ more) := by
  induction moves generalizing pool history with
  | nil => exact ⟨[], by simp, by rw [List.append_nil]; exact serial⟩
  | cons move rest ih =>
      obtain ⟨first, early, stepped⟩ := serial.step references dialogued admits.1
      obtain ⟨more, late, ran⟩ := ih stepped admits.2
      refine ⟨first ++ more, ?_, by rw [← List.append_assoc]; exact ran⟩
      intro entry member
      rcases List.mem_append.mp member with old | new
      · exact early entry old
      · exact (late entry new).earlier

theorem Serial.answered {i : Nat} {task : Client K R α τ} {a : α}
    (serial : Serial operation pool history) (found : pool.tasks[i]? = some task)
    (done : task.program = .done (.ok a)) : (i, a) ∈ (oneByOne operation history).1 := by
  have settled := (serial.stages i task found).settled
  rw [done] at settled
  exact answerOf_some settled

/-- A history that explains a pool: served one after another, its clients get the answers
the clients of the pool have got, and leave the same rows. -/
structure Linearized (operation : τ → Operation K R α) (pool : Clients K R α τ)
    (history : List (Nat × τ)) : Prop where
  rows : pool.shared.rows = (oneByOne operation history).2
  once : (history.map (·.1)).Nodup
  known : ∀ entry ∈ history, ∃ task, pool.tasks[entry.1]? = some task ∧ task.tag = entry.2
  answered : ∀ (i : Nat) (task : Client K R α τ) (a : α), pool.tasks[i]? = some task →
    task.program = .done (.ok a) → (i, a) ∈ (oneByOne operation history).1

theorem Serial.linearized (serial : Serial operation pool history) :
    Linearized operation pool history where
  rows := serial.rows
  once := serial.once
  known := serial.known
  answered := fun _ _ _ found done => serial.answered found done

theorem linearized_run (dialogued : ∀ tag, dialogue tag = (operation tag).dialogue)
    {moves : List (Move τ)}
    (admits : (databaseRuns references dialogue).Admits ⟨Store.empty, []⟩ moves) :
    ∃ history,
      Linearized operation ((databaseRuns references dialogue).run ⟨Store.empty, []⟩ moves)
        history := by
  obtain ⟨history, _, serial⟩ := Serial.empty.run dialogued moves admits
  exact ⟨_, serial.linearized⟩

theorem linearizable (dialogued : ∀ tag, dialogue tag = (operation tag).dialogue)
    {before after : List (Move τ)}
    (admits : (databaseRuns references dialogue).Admits ⟨Store.empty, []⟩ (before ++ after)) :
    ∃ history later,
      Linearized operation ((databaseRuns references dialogue).run ⟨Store.empty, []⟩ before)
        history ∧
      Linearized operation
        ((databaseRuns references dialogue).run ⟨Store.empty, []⟩ (before ++ after))
        (history ++ later) ∧
      ∀ entry ∈ later,
        Unanswered ((databaseRuns references dialogue).run ⟨Store.empty, []⟩ before) entry.1 := by
  rw [System.admits_append] at admits
  obtain ⟨history, _, early⟩ := Serial.empty.run dialogued before admits.1
  obtain ⟨later, unanswered, late⟩ := early.run dialogued after admits.2
  rw [List.nil_append] at early late
  refine ⟨history, later, early.linearized, ?_, unanswered⟩
  rw [System.run_append]
  exact late.linearized

theorem referential_run (dialogued : ∀ tag, dialogue tag = (operation tag).dialogue)
    (spares : ∀ tag, (operation tag).Spares references) {moves : List (Move τ)}
    (admits : (databaseRuns references dialogue).Admits ⟨Store.empty, []⟩ moves) :
    Referential references
      ((databaseRuns references dialogue).run ⟨Store.empty, []⟩ moves).shared := by
  have rules : (database references dialogue).Rules Waits (fun _ _ st => Spares references st)
      (fun _ _ _ => True) (Referential references) (fun _ _ _ => True) := {
    body := fun tag => by
      have only := Operation.dialogue_spares (spares tag)
      rw [← dialogued tag] at only
      exact only.obeys (fun _ _ fine => fine) (fun _ _ => trivial) ()
    start := fun _ _ _ => trivial
    reset := fun _ event => event.elim
    inv := fun pool i delivery task st next _ found program sound => by
      have obeys := sound.obeys task (List.mem_of_getElem? found)
      rw [program] at obeys
      exact sound.inv.execute obeys.1
    learned := fun _ _ _ _ _ _ _ _ _ _ => trivial
    stable := fun _ _ _ _ _ _ _ _ _ _ _ _ _ _ => trivial }
  exact ((database references dialogue).sound_run rules _ moves admits
    ((database references dialogue).sound_empty Referential.empty)).inv

end Serial

end GreenticDeployer.Lib.Rows
