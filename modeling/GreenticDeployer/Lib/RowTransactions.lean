import GreenticDeployer.Lib.Programs
import Mathlib.Logic.Function.Basic
import Mathlib.Data.List.Nodup

/-!
# Transactions on one row

Clients of a database speak to it statement by statement: a transaction locks the row
it has read, writes what it decided on and commits; other statements stand alone. Any
statement may fail, or do its work and never be answered. However they interleave, the
rows change and the clients are answered as if each operation were one step.
-/

set_option maxHeartbeats 200000

namespace GreenticDeployer.Lib.Rows

variable {K R α τ : Type} [DecidableEq K]

/-- The lock of a transaction on a row, with what it has written there, if anything. -/
structure Lock (R : Type) where
  xid : Nat
  written : Option (Option R)

/-- The committed rows, and who holds which lock. -/
structure Store (K R : Type) where
  rows : K → Option R
  locks : K → Option (Lock R)
  nextXid : Nat

def Store.empty : Store K R := ⟨fun _ => none, fun _ => none, 0⟩

namespace Store

def release (s : Store K R) (xid : Nat) (key : K) : Store K R :=
  match s.locks key with
  | some lock => if lock.xid = xid then { s with locks := Function.update s.locks key none } else s
  | none => s

def lock (s : Store K R) (xid : Nat) (key : K) (written : Option (Option R)) : Store K R :=
  { s with locks := Function.update s.locks key (some ⟨xid, written⟩) }

def commit (s : Store K R) (xid : Nat) (key : K) : Store K R :=
  match s.locks key with
  | some lock =>
    if lock.xid = xid then
      { s with
        rows := match lock.written with
          | some row => Function.update s.rows key row
          | none => s.rows
        locks := Function.update s.locks key none }
    else s
  | none => s

end Store

inductive DriverError where
  | unique
  | foreignKey
  | rowNotFound
  | connection
  deriving DecidableEq, Repr

inductive Statement (K R : Type) where
  /-- `SELECT`, outside a transaction. -/
  | select (key : K)
  /-- `INSERT … ON CONFLICT DO NOTHING`, outside a transaction. -/
  | insertIfAbsent (key : K) (row : R)
  | begin
  /-- `SELECT … FOR UPDATE`. -/
  | selectForUpdate (xid : Nat) (key : K)
  | insert (xid : Nat) (key : K) (row : R)
  | update (xid : Nat) (key : K) (row : R)
  | delete (xid : Nat) (key : K)
  | commit (xid : Nat) (key : K)
  | rollback (xid : Nat) (key : K)

namespace Statement

def Payload : Statement K R → Type
  | select _ => Option R
  | insertIfAbsent .. => Bool
  | begin => Nat
  | selectForUpdate .. => Option R
  | _ => Unit

abbrev Reply (st : Statement K R) : Type := Except DriverError st.Payload

def transaction : Statement K R → Option (Nat × K)
  | selectForUpdate xid key => some (xid, key)
  | insert xid key _ => some (xid, key)
  | update xid key _ => some (xid, key)
  | delete xid key => some (xid, key)
  | commit xid key => some (xid, key)
  | rollback xid key => some (xid, key)
  | _ => none

def xid (st : Statement K R) : Option Nat := st.transaction.map (·.1)

/-- The statements after which nothing is left to roll back. -/
def closes : Statement K R → Bool
  | insertIfAbsent .. => true
  | commit .. => true
  | _ => false

/-- The statement that writes a locked row. -/
def rewrite (xid : Nat) (key : K) : Option R → Statement K R
  | some row => update xid key row
  | none => delete xid key

end Statement

/-- A statement is answered, or fails, or does its work and is not answered. -/
inductive Delivery where
  | answered
  | failed
  | unanswered
  deriving DecidableEq, Repr

variable (references : K → Option K)

/-- A foreign key, as an insert checks it. -/
def satisfied (s : Store K R) (key : K) : Bool :=
  match references key with
  | some parent => (s.rows parent).isSome
  | none => true

/-- What a statement does. An error aborts its transaction. -/
def perform (s : Store K R) : (st : Statement K R) → st.Reply × Store K R
  | .select key => (.ok (s.rows key), s)
  | .insertIfAbsent key row =>
    match s.rows key with
    | some _ => (.ok false, s)
    | none =>
      if satisfied references s key then
        (.ok true, { s with rows := Function.update s.rows key (some row) })
      else (.error .foreignKey, s)
  | .begin => (.ok s.nextXid, { s with nextXid := s.nextXid + 1 })
  | .selectForUpdate xid key =>
    match s.rows key with
    | some row => (.ok (some row), s.lock xid key none)
    | none => (.ok none, s)
  | .insert xid key row =>
    if (s.rows key).isSome then (.error .unique, s.release xid key)
    else if satisfied references s key then (.ok (), s.lock xid key (some (some row)))
    else (.error .foreignKey, s.release xid key)
  | .update xid key row =>
    (.ok (), if (s.rows key).isSome then s.lock xid key (some (some row)) else s)
  | .delete xid key => (.ok (), if (s.rows key).isSome then s.lock xid key (some none) else s)
  | .commit xid key => (.ok (), s.commit xid key)
  | .rollback xid key => (.ok (), s.release xid key)

/-- The transaction of a statement is lost with its connection. -/
def abandon (s : Store K R) (st : Statement K R) : Store K R :=
  match st.transaction with
  | some (xid, key) => s.release xid key
  | none => s

def execute (delivery : Delivery) (s : Store K R) (st : Statement K R) : st.Reply × Store K R :=
  match delivery with
  | .answered => perform references s st
  | .failed => (.error .connection, abandon s st)
  | .unanswered => (.error .connection,
      if st.closes then (perform references s st).2 else abandon s st)

/-- A statement waits for the lock of another transaction: one that locks a row, for
whoever has locked it, and one that inserts, for whoever is about to. -/
def Free (s : Store K R) : Statement K R → Prop
  | .selectForUpdate xid key => ∀ lock ∈ s.locks key, lock.xid = xid ∨ s.rows key = none
  | .insert xid key _ => ∀ lock ∈ s.locks key, lock.xid = xid ∨ s.rows key ≠ none
  | .insertIfAbsent key _ => ∀ lock ∈ s.locks key, s.rows key ≠ none
  | .update xid key _ => ∀ lock ∈ s.locks key, lock.xid = xid
  | .delete xid key => ∀ lock ∈ s.locks key, lock.xid = xid
  | _ => True

instance (s : Store K R) : ∀ st, Decidable (Free s st)
  | .selectForUpdate xid key =>
    inferInstanceAs (Decidable (∀ lock ∈ s.locks key, lock.xid = xid ∨ s.rows key = none))
  | .insert xid key _ =>
    inferInstanceAs (Decidable (∀ lock ∈ s.locks key, lock.xid = xid ∨ s.rows key ≠ none))
  | .insertIfAbsent key _ =>
    inferInstanceAs (Decidable (∀ lock ∈ s.locks key, s.rows key ≠ none))
  | .update xid key _ => inferInstanceAs (Decidable (∀ lock ∈ s.locks key, lock.xid = xid))
  | .delete xid key => inferInstanceAs (Decidable (∀ lock ∈ s.locks key, lock.xid = xid))
  | .select _ | .begin | .commit .. | .rollback .. => .isTrue trivial

/-- What an operation decides on a row it has read: to answer at once, or to write `W`
and answer once that is committed. -/
inductive Verdict (W α : Type) where
  | reject (a : α)
  | write (written : W) (a : α)

inductive Operation (K R α : Type) where
  | answer (a : α)
  | read (key : K) (conclude : Option R → α)
  | create (key : K) (row : R) (won : α) (lost : R → α)
  | locked (key : K) (absent : Verdict R α) (present : R → Verdict (Option R) α)

def Operation.apply (rows : K → Option R) : Operation K R α → α × (K → Option R)
  | answer a => (a, rows)
  | read key conclude => (conclude (rows key), rows)
  | create key row won lost =>
    match rows key with
    | some existing => (lost existing, rows)
    | none => (won, Function.update rows key (some row))
  | locked key absent present =>
    match rows key with
    | none =>
      match absent with
      | .reject a => (a, rows)
      | .write row a => (a, Function.update rows key (some row))
    | some current =>
      match present current with
      | .reject a => (a, rows)
      | .write row a => (a, Function.update rows key row)

abbrev Dialogue (K R α : Type) := Program.Fallible (Statement K R) Statement.Reply DriverError α

def ask (st : Statement K R) : Dialogue K R st.Payload := Program.ask st id

/-- A transaction that is dropped is rolled back, and nobody asks how that went. -/
def leave (xid : Nat) (key : K) (a : α) : Dialogue K R α :=
  Program.ask (.rollback xid key) fun _ => .ok a

def finish (xid : Nat) (key : K) (a : α) : Dialogue K R α := do
  let _ ← ask (.commit xid key)
  return a

def concludeAbsent (xid : Nat) (key : K) : Verdict R α → Dialogue K R α
  | .reject a => leave xid key a
  | .write row a => do
    let _ ← ask (.insert xid key row)
    finish xid key a

def concludePresent (xid : Nat) (key : K) : Verdict (Option R) α → Dialogue K R α
  | .reject a => leave xid key a
  | .write row a => do
    let _ ← ask (Statement.rewrite xid key row)
    finish xid key a

def lookAgain (key : K) (lost : R → α) : Dialogue K R α := do
  let found : Option R ← ask (.select key)
  match found with
  | some row => return lost row
  | none => throw .rowNotFound

def lockRow (xid : Nat) (key : K) (absent : Verdict R α) (present : R → Verdict (Option R) α) :
    Dialogue K R α := do
  let found : Option R ← ask (.selectForUpdate xid key)
  match found with
  | none => concludeAbsent xid key absent
  | some row => concludePresent xid key (present row)

/-- The operation as its client carries it out. -/
def Operation.dialogue : Operation K R α → Dialogue K R α
  | answer a => return a
  | read key conclude => do
    let found : Option R ← ask (.select key)
    return conclude found
  | create key row won lost => do
    let inserted : Bool ← ask (.insertIfAbsent key row)
    if inserted then return won else lookAgain key lost
  | locked key absent present => do
    let xid : Nat ← ask .begin
    lockRow xid key absent present

/-- How far the dialogue of an operation has come: what is left of it, and the answer it
has, once the rows are as the operation leaves them. -/
inductive Stage (s : Store K R) :
    Operation K R α → Option α → Program (Statement K R) Statement.Reply (Except DriverError α) →
    Prop
  | answered {a} : Stage s (.answer a) (some a) (.done (.ok a))
  | toRead {key conclude} : Stage s (.read key conclude) none (Operation.read key conclude).dialogue
  | toCreate {key row won lost} :
      Stage s (.create key row won lost) none (Operation.create key row won lost).dialogue
  | toLookAgain {key row won lost} :
      Stage s (.create key row won lost) none (lookAgain key lost : Dialogue K R α)
  | toBegin {key absent present} :
      Stage s (.locked key absent present) none (Operation.locked key absent present).dialogue
  | toLock {key absent present xid} :
      Stage s (.locked key absent present) none (lockRow xid key absent present : Dialogue K R α)
  | toInsert {key row a present xid} : Stage s (.locked key (.write row a) present) none
      (concludeAbsent xid key (.write row a) : Dialogue K R α)
  | toRewrite {key absent present xid current row a written}
      (locked : s.locks key = some ⟨xid, written⟩) (found : s.rows key = some current)
      (decided : present current = .write row a) : Stage s (.locked key absent present) none
      (concludePresent xid key (.write row a) : Dialogue K R α)
  | toCommit {op key xid row a} (locked : s.locks key = some ⟨xid, some row⟩)
      (applies : ∀ rows, rows key = s.rows key →
        Operation.apply rows op = (a, Function.update rows key row)) :
      Stage s op none (finish xid key a : Dialogue K R α)
  | toLeave {op xid key a} : Stage s op (some a) (leave xid key a : Dialogue K R α)
  | done {op a} : Stage s op (some a) (.done (.ok a))
  | broken {op landed e} : Stage s op landed (.done (.error e))

def inTransaction : Program (Statement K R) Statement.Reply (Except DriverError α) → Option Nat
  | .call st _ => st.xid
  | .done _ => none

/-- What a step of a dialogue does: nothing to the rows, or what its operation does, with
the answer the operation has. -/
def Lands (op : Operation K R α) (before after : K → Option R) (landed landed' : Option α) :
    Prop :=
  (landed' = landed ∧ after = before) ∨
    (landed = none ∧ landed' = some (op.apply before).1 ∧ after = (op.apply before).2)

section Turns

variable {s : Store K R} {op : Operation K R α} {landed : Option α}
variable {p : Program (Statement K R) Statement.Reply (Except DriverError α)}
variable {st : Statement K R} {delivery : Delivery} {xid other : Nat} {key : K}
variable {written : Option (Option R)}

theorem release_rows : (s.release xid key).rows = s.rows := by
  unfold Store.release
  split
  · split <;> rfl
  · rfl

theorem release_nextXid : (s.release xid key).nextXid = s.nextXid := by
  unfold Store.release
  split
  · split <;> rfl
  · rfl

theorem abandon_rows : (abandon s st).rows = s.rows := by
  unfold abandon
  split
  · exact release_rows
  · rfl

theorem abandon_nextXid : (abandon s st).nextXid = s.nextXid := by
  unfold abandon
  split
  · exact release_nextXid
  · rfl

theorem commit_rows {row : Option R} (locked : s.locks key = some ⟨xid, some row⟩) :
    (s.commit xid key).rows = Function.update s.rows key row := by
  simp only [Store.commit, locked, if_true]

theorem Lands.still {before after : K → Option R} (same : after = before) :
    Lands op before after landed landed := .inl ⟨rfl, same⟩

/-- What the next step of a dialogue leads to, from a store on which it need not wait. -/
def Turns (s : Store K R) (op : Operation K R α) (landed : Option α) :
    Program (Statement K R) Statement.Reply (Except DriverError α) → Prop
  | .done _ => True
  | .call st next => Free s st → ∀ delivery, ∃ landed',
      Stage (execute references delivery s st).2 op landed'
        (next (execute references delivery s st).1) ∧
      Lands op s.rows (execute references delivery s st).2.rows landed landed'

variable {references : K → Option K}

/-- A statement that fails ends its dialogue, and the rows stay as they are. -/
theorem turns_of_answered {st : Statement K R}
    {next : st.Reply → Program (Statement K R) Statement.Reply (Except DriverError α)}
    (ends : next (.error .connection) = .done (.error .connection)) (open_ : st.closes = false)
    (answered : Free s st → ∃ landed', Stage (perform references s st).2 op landed'
        (next (perform references s st).1) ∧
      Lands op s.rows (perform references s st).2.rows landed landed') :
    Turns references s op landed (.call st next) := by
  intro free delivery
  have broken : ∃ landed', Stage (abandon s st) op landed' (next (.error .connection)) ∧
      Lands op s.rows (abandon s st).rows landed landed' :=
    ⟨landed, ends ▸ .broken, .still abandon_rows⟩
  cases delivery with
  | answered => exact answered free
  | failed => exact broken
  | unanswered =>
      simp only [execute, open_, Bool.false_eq_true, if_false]
      exact broken

theorem turns_create {row : R} {won : α} {lost : R → α} :
    Turns references s (.create key row won lost) none
      (Operation.create key row won lost).dialogue := by
  intro free delivery
  cases delivery with
  | failed => exact ⟨none, .broken, .still abandon_rows⟩
  | answered =>
      cases found : s.rows key with
      | some existing =>
          refine ⟨none, ?_, .still ?_⟩ <;> simp only [execute, perform, found]
          exact .toLookAgain
      | none =>
          by_cases allowed : satisfied references s key
          · refine ⟨some won, ?_, .inr ⟨rfl, ?_, ?_⟩⟩ <;>
              simp only [execute, perform, found, allowed, if_true, Operation.apply]
            exact .done
          · refine ⟨none, ?_, .still ?_⟩ <;>
              simp only [execute, perform, found, allowed, Bool.false_eq_true, if_false]
            exact .broken
  | unanswered =>
      cases found : s.rows key with
      | some existing =>
          refine ⟨none, .broken, .still ?_⟩
          simp only [execute, Statement.closes, perform, found, if_true]
      | none =>
          by_cases allowed : satisfied references s key
          · refine ⟨some won, .broken, .inr ⟨rfl, ?_, ?_⟩⟩ <;>
              simp only [execute, Statement.closes, perform, found, allowed, if_true,
                Operation.apply]
          · refine ⟨none, .broken, .still ?_⟩
            simp only [execute, Statement.closes, perform, found, allowed, Bool.false_eq_true,
              if_true, if_false]

theorem turns_lookAgain {row : R} {won : α} {lost : R → α} :
    Turns references s (.create key row won lost) none (lookAgain key lost : Dialogue K R α) := by
  refine turns_of_answered rfl rfl fun _ => ?_
  cases found : s.rows key with
  | some existing =>
      refine ⟨some (lost existing), ?_, .inr ⟨rfl, ?_, ?_⟩⟩ <;>
        simp only [perform, found, Operation.apply]
      exact .done
  | none =>
      refine ⟨none, ?_, .still rfl⟩
      simp only [perform, found]
      exact .broken

theorem turns_lockRow {absent : Verdict R α} {present : R → Verdict (Option R) α} :
    Turns references s (.locked key absent present) none
      (lockRow xid key absent present : Dialogue K R α) := by
  refine turns_of_answered rfl rfl fun _ => ?_
  cases found : s.rows key with
  | none =>
      cases absent with
      | reject a =>
          refine ⟨some a, ?_, .inr ⟨rfl, ?_, ?_⟩⟩ <;> simp only [perform, found, Operation.apply]
          exact .toLeave
      | write row a =>
          refine ⟨none, ?_, .still ?_⟩ <;> simp only [perform, found]
          exact .toInsert
  | some current =>
      cases decided : present current with
      | reject a =>
          have stage : Stage (s.lock xid key none) (.locked key absent present) (some a)
              (concludePresent xid key (present current) : Dialogue K R α) := by
            rw [decided]
            exact .toLeave
          refine ⟨some a, ?_, .inr ⟨rfl, ?_, ?_⟩⟩ <;>
            simp only [perform, found, Operation.apply, decided]
          · exact stage
          · rfl
      | write row a =>
          have locked : (s.lock xid key none).locks key = some ⟨xid, none⟩ :=
            Function.update_self key _ s.locks
          have stage : Stage (s.lock xid key none) (.locked key absent present) none
              (concludePresent xid key (present current) : Dialogue K R α) := by
            rw [decided]
            exact .toRewrite locked found decided
          refine ⟨none, ?_, .still ?_⟩ <;> simp only [perform, found]
          · exact stage
          · rfl

theorem turns_insert {row : R} {a : α} {present : R → Verdict (Option R) α} :
    Turns references s (.locked key (.write row a) present) none
      (concludeAbsent xid key (.write row a) : Dialogue K R α) := by
  refine turns_of_answered rfl rfl fun _ => ?_
  cases found : s.rows key with
  | some existing =>
      refine ⟨none, ?_, .still ?_⟩ <;> simp only [perform, found, Option.isSome_some, if_true]
      · exact .broken
      · exact release_rows
  | none =>
      by_cases allowed : satisfied references s key
      · have locked : (s.lock xid key (some (some row))).locks key =
            some ⟨xid, some (some row)⟩ := Function.update_self key _ s.locks
        have applies : ∀ rows : K → Option R, rows key = s.rows key →
            Operation.apply rows (.locked key (.write row a) present) =
              (a, Function.update rows key (some row)) := by
          intro rows same
          simp only [Operation.apply, same.trans found]
        refine ⟨none, ?_, .still ?_⟩ <;>
          simp only [perform, found, allowed, Option.isSome_none, Bool.false_eq_true, if_false,
            if_true]
        · exact .toCommit locked applies
        · rfl
      · refine ⟨none, ?_, .still ?_⟩ <;>
          simp only [perform, found, allowed, Option.isSome_none, Bool.false_eq_true, if_false]
        · exact .broken
        · exact release_rows

theorem turns_rewrite {absent : Verdict R α} {present : R → Verdict (Option R) α} {current : R}
    {row : Option R} {a : α} (found : s.rows key = some current)
    (decided : present current = .write row a) :
    Turns references s (.locked key absent present) none
      (concludePresent xid key (.write row a) : Dialogue K R α) := by
  have applies : ∀ rows : K → Option R, rows key = s.rows key →
      Operation.apply rows (.locked key absent present) = (a, Function.update rows key row) := by
    intro rows same
    simp only [Operation.apply, same.trans found, decided]
  have locked : (s.lock xid key (some row)).locks key = some ⟨xid, some row⟩ :=
    Function.update_self key _ s.locks
  have stage : Stage (s.lock xid key (some row)) (.locked key absent present) none
      (finish xid key a : Dialogue K R α) := .toCommit locked applies
  cases row with
  | some row =>
      show Turns references s _ none (.call (.update xid key row) _)
      refine turns_of_answered rfl rfl fun _ => ⟨none, ?_, .still ?_⟩ <;>
        simp only [perform, found, Option.isSome_some, if_true]
      · exact stage
      · rfl
  | none =>
      show Turns references s _ none (.call (.delete xid key) _)
      refine turns_of_answered rfl rfl fun _ => ⟨none, ?_, .still ?_⟩ <;>
        simp only [perform, found, Option.isSome_some, if_true]
      · exact stage
      · rfl

theorem turns_finish {row : Option R} {a : α} (locked : s.locks key = some ⟨xid, some row⟩)
    (applies : ∀ rows, rows key = s.rows key →
      Operation.apply rows op = (a, Function.update rows key row)) :
    Turns references s op none (finish xid key a : Dialogue K R α) := by
  intro _ delivery
  have rows := commit_rows locked
  have applied := applies s.rows rfl
  have landed : Lands op s.rows (s.commit xid key).rows none (some a) :=
    .inr ⟨rfl, by rw [applied], by rw [applied, rows]⟩
  cases delivery with
  | failed => exact ⟨none, .broken, .still abandon_rows⟩
  | answered => exact ⟨some a, .done, landed⟩
  | unanswered => exact ⟨some a, .broken, landed⟩

theorem turns_leave {a : α} :
    Turns references s op (some a) (leave xid key a : Dialogue K R α) := by
  intro _ delivery
  have gone : (execute references delivery s (.rollback xid key)).2.rows = s.rows := by
    cases delivery <;> exact release_rows
  exact ⟨some a, .done, .still gone⟩

/-- Every dialogue goes on as its operation has it. -/
theorem Stage.turns (stage : Stage s op landed p) : Turns references s op landed p := by
  cases stage with
  | answered => trivial
  | done => trivial
  | broken => trivial
  | toRead => exact turns_of_answered rfl rfl fun _ => ⟨_, .done, .inr ⟨rfl, rfl, rfl⟩⟩
  | toCreate => exact turns_create
  | toLookAgain => exact turns_lookAgain
  | toBegin => exact turns_of_answered rfl rfl fun _ => ⟨none, .toLock, .still rfl⟩
  | toLock => exact turns_lockRow
  | toInsert => exact turns_insert
  | toRewrite locked found decided => exact turns_rewrite found decided
  | toCommit locked applies => exact turns_finish locked applies
  | toLeave => exact turns_leave

end Turns

/-- A dialogue that ends with an answer ends with its operation's. -/
def Settled (landed : Option α) :
    Program (Statement K R) Statement.Reply (Except DriverError α) → Prop
  | .done (.ok a) => landed = some a
  | _ => True

theorem Stage.settled {s : Store K R} {op : Operation K R α} {landed : Option α}
    {p : Program (Statement K R) Statement.Reply (Except DriverError α)}
    (stage : Stage s op landed p) : Settled landed p := by
  cases stage with
  | answered => rfl
  | done => rfl
  | @toRewrite _ _ _ _ _ row => cases row <;> trivial
  | _ => trivial

section Others

variable {s : Store K R} {op : Operation K R α} {landed : Option α}
variable {p : Program (Statement K R) Statement.Reply (Except DriverError α)}
variable {st : Statement K R} {delivery : Delivery} {xid x : Nat} {key other : K}
variable {written : Option (Option R)} {references : K → Option K}

structure Held (s after : Store K R) (key : K) : Prop where
  lock : after.locks key = s.locks key
  row : after.rows key = s.rows key

theorem release_held (locked : s.locks key = some ⟨x, written⟩) (apart : xid ≠ x) :
    Held s (s.release xid other) key := by
  refine ⟨?_, congrFun release_rows key⟩
  unfold Store.release
  split
  · rename_i lock found
    split
    · rename_i own
      refine Function.update_of_ne ?_ _ _
      rintro rfl
      cases found.symm.trans locked
      exact apart own.symm
    · rfl
  · rfl

theorem lock_held (elsewhere : key ≠ other) {row : Option (Option R)} :
    Held s (s.lock xid other row) key :=
  ⟨Function.update_of_ne elsewhere _ _, rfl⟩

theorem rewritten_held (elsewhere : key ≠ other) {row : Option (Option R)} :
    Held s (if (s.rows other).isSome then s.lock xid other row else s) key := by
  split
  · exact lock_held elsewhere
  · exact ⟨rfl, rfl⟩

theorem commit_keeps (locked : s.locks key = some ⟨x, written⟩) (apart : xid ≠ x) :
    Held s (s.commit xid other) key := by
  unfold Store.commit
  split
  · rename_i lock found
    split
    · rename_i own
      have elsewhere : key ≠ other := by
        rintro rfl
        cases found.symm.trans locked
        exact apart own.symm
      refine ⟨Function.update_of_ne elsewhere _ _, ?_⟩
      obtain ⟨owner, row⟩ := lock
      cases row with
      | some row => exact Function.update_of_ne elsewhere _ _
      | none => rfl
    · exact ⟨rfl, rfl⟩
  · exact ⟨rfl, rfl⟩

theorem abandon_held (locked : s.locks key = some ⟨x, written⟩) (apart : st.xid ≠ some x) :
    Held s (abandon s st) key := by
  unfold abandon
  split
  · rename_i xid other own
    refine release_held locked fun same => apart ?_
    rw [Statement.xid, own, ← same]
    rfl
  · exact ⟨rfl, rfl⟩

/-- A statement leaves alone what another transaction has locked. -/
theorem execute_held (free : Free s st) (locked : s.locks key = some ⟨x, written⟩)
    (apart : st.xid ≠ some x) : Held s (execute references delivery s st).2 key := by
  have abandoned := abandon_held locked apart
  have performed : Held s (perform references s st).2 key := by
    cases st with
    | select other => exact ⟨rfl, rfl⟩
    | begin => exact ⟨rfl, rfl⟩
    | insertIfAbsent other row =>
        cases found : s.rows other with
        | some existing => constructor <;> simp only [perform, found]
        | none =>
            have elsewhere : key ≠ other := by
              rintro rfl
              exact free _ locked found
            simp only [perform, found]
            split
            · exact ⟨rfl, Function.update_of_ne elsewhere _ _⟩
            · exact ⟨rfl, rfl⟩
    | selectForUpdate xid other =>
        cases found : s.rows other with
        | none => constructor <;> simp only [perform, found]
        | some row =>
            have elsewhere : key ≠ other := by
              rintro rfl
              rcases free _ locked with own | gone
              · exact apart (congrArg some own.symm)
              · cases gone.symm.trans found
            constructor <;> simp only [perform, found]
            · exact (lock_held elsewhere).lock
            · rfl
    | insert xid other row =>
        have distinct : xid ≠ x := fun same => apart (congrArg some same)
        unfold perform
        dsimp only
        split
        · exact release_held locked distinct
        · rename_i absent
          split
          · refine lock_held ?_
            rintro rfl
            rcases free _ locked with own | taken
            · exact distinct own.symm
            · exact absent (Option.isSome_iff_ne_none.mpr taken)
          · exact release_held locked distinct
    | update xid other row =>
        exact rewritten_held fun same => apart (congrArg some (free _ (same ▸ locked)).symm)
    | delete xid other =>
        exact rewritten_held fun same => apart (congrArg some (free _ (same ▸ locked)).symm)
    | commit xid other => exact commit_keeps locked fun same => apart (congrArg some same)
    | rollback xid other => exact release_held locked fun same => apart (congrArg some same)
  cases delivery with
  | answered => exact performed
  | failed => exact abandoned
  | unanswered =>
      unfold execute
      dsimp only
      split
      · exact performed
      · exact abandoned

theorem Stage.spared (stage : Stage s op landed p) (free : Free s st)
    (apart : ∀ x, inTransaction p = some x → st.xid ≠ some x) :
    Stage (execute references delivery s st).2 op landed p := by
  cases stage with
  | answered => exact .answered
  | done => exact .done
  | broken => exact .broken
  | toRead => exact .toRead
  | toCreate => exact .toCreate
  | toLookAgain => exact .toLookAgain
  | toBegin => exact .toBegin
  | toLock => exact .toLock
  | toInsert => exact .toInsert
  | toLeave => exact .toLeave
  | @toRewrite key absent present xid current row a written locked found decided =>
      have own : st.xid ≠ some xid := by
        refine apart xid ?_
        cases row <;> rfl
      have held : Held s (execute references delivery s st).2 key :=
        execute_held free locked own
      exact .toRewrite (held.lock.trans locked) (held.row.trans found) decided
  | toCommit locked applies =>
      have held : Held s (execute references delivery s st).2 _ :=
        execute_held free locked (apart _ rfl)
      refine .toCommit (held.lock.trans locked) fun rows same => applies rows ?_
      exact same.trans held.row

theorem commit_nextXid : (s.commit xid key).nextXid = s.nextXid := by
  unfold Store.commit
  split
  · split <;> rfl
  · rfl

theorem perform_nextXid : s.nextXid ≤ (perform references s st).2.nextXid := by
  cases st with
  | insertIfAbsent key row =>
      cases found : s.rows key <;> simp only [perform, found, le_refl]
      split <;> exact le_rfl
  | begin => exact Nat.le_succ _
  | selectForUpdate xid key =>
      cases found : s.rows key <;> simp only [perform, found, le_refl]
      exact le_rfl
  | insert xid key row =>
      unfold perform
      dsimp only
      split
      · exact release_nextXid.ge
      · split
        · exact le_rfl
        · exact release_nextXid.ge
  | commit xid key => exact commit_nextXid.ge
  | rollback xid key => exact release_nextXid.ge
  | select key => exact le_rfl
  | update xid key row =>
      unfold perform
      dsimp only
      split <;> exact le_rfl
  | delete xid key =>
      unfold perform
      dsimp only
      split <;> exact le_rfl

theorem execute_nextXid : s.nextXid ≤ (execute references delivery s st).2.nextXid := by
  cases delivery with
  | answered => exact perform_nextXid
  | failed => exact abandon_nextXid.ge
  | unanswered =>
      unfold execute
      dsimp only
      split
      · exact perform_nextXid
      · exact abandon_nextXid.ge

end Others

/-- The reply that tells a client of its new transaction. -/
def Opens (x : Nat) : (st : Statement K R) → st.Reply → Prop
  | .begin, .ok xid => xid = x
  | _, _ => False

/-- A dialogue goes on in the transaction it is in, or in one it has just begun. -/
def Continues : Program (Statement K R) Statement.Reply (Except DriverError α) → Prop
  | .done _ => True
  | .call st next => ∀ reply x, inTransaction (next reply) = some x →
      st.xid = some x ∨ Opens x st reply

section Continues

omit [DecidableEq K]

variable {xid : Nat} {key : K}

theorem inTransaction_concludeAbsent (verdict : Verdict R α) :
    inTransaction (concludeAbsent xid key verdict : Dialogue K R α) = some xid := by
  cases verdict <;> rfl

theorem inTransaction_concludePresent (verdict : Verdict (Option R) α) :
    inTransaction (concludePresent xid key verdict : Dialogue K R α) = some xid := by
  cases verdict with
  | reject a => rfl
  | write row a => cases row <;> rfl

theorem continues_lockRow {absent : Verdict R α} {present : R → Verdict (Option R) α} :
    Continues (lockRow xid key absent present : Dialogue K R α) := by
  rintro (e | found) x next
  · cases next
  · refine .inl (Eq.trans ?_ next)
    cases found with
    | none => exact (inTransaction_concludeAbsent absent).symm
    | some current => exact (inTransaction_concludePresent (present current)).symm

end Continues

theorem Stage.continues {s : Store K R} {op : Operation K R α} {landed : Option α}
    {p : Program (Statement K R) Statement.Reply (Except DriverError α)}
    (stage : Stage s op landed p) : Continues p := by
  cases stage with
  | answered => trivial
  | done => trivial
  | broken => trivial
  | toRead => rintro (e | found) x next <;> cases next
  | toCreate =>
      rintro (e | inserted) x next
      · cases next
      · cases inserted <;> cases next
  | toLookAgain =>
      rintro (e | found) x next
      · cases next
      · cases found <;> cases next
  | toBegin =>
      rintro (e | xid) x next
      · cases next
      · exact .inr (Option.some.inj next)
  | toLock => exact continues_lockRow
  | toInsert =>
      rintro (e | u) x next
      · cases next
      · exact .inl next
  | @toRewrite _ _ _ _ _ row =>
      cases row <;> rintro (e | u) x next
      · cases next
      · exact .inl next
      · cases next
      · exact .inl next
  | toCommit => rintro (e | u) x next <;> cases next
  | toLeave =>
      rintro reply x next
      cases next

theorem execute_opens {references : K → Option K} {s : Store K R} {st : Statement K R}
    {delivery : Delivery} {x : Nat} (opens : Opens x st (execute references delivery s st).1) :
    x = s.nextXid ∧ (execute references delivery s st).2.nextXid = s.nextXid + 1 := by
  cases delivery with
  | answered =>
      cases st with
      | begin => exact ⟨opens.symm, rfl⟩
      | _ => exact opens.elim
  | failed => cases st <;> exact opens.elim
  | unanswered => cases st <;> exact opens.elim

/-- A row, or one about to be written, is there only where the row it references is. No
row that others may reference is about to be deleted. -/
structure Referential (references : K → Option K) (s : Store K R) : Prop where
  rows : ∀ key parent, references key = some parent → (s.rows key).isSome = true →
    (s.rows parent).isSome = true
  written : ∀ key parent xid row, references key = some parent →
    s.locks key = some ⟨xid, some (some row)⟩ → (s.rows parent).isSome = true
  spared : ∀ key parent xid, references key = some parent →
    s.locks parent ≠ some ⟨xid, some none⟩

def Spares (references : K → Option K) : Statement K R → Prop
  | .delete _ parent => ∀ key, references key ≠ some parent
  | _ => True

/-- An operation decides to delete no such row. -/
def Operation.Spares (references : K → Option K) : Operation K R α → Prop
  | locked parent _ present => ∀ current a, present current = .write none a →
    ∀ key, references key ≠ some parent
  | _ => True

section Referential

variable {references : K → Option K} {s : Store K R} {st : Statement K R} {delivery : Delivery}
variable {xid : Nat} {key : K}

omit [DecidableEq K] in
theorem Referential.empty : Referential references (Store.empty : Store K R) where
  rows := fun _ _ _ present => by cases present
  written := fun _ _ _ _ _ locked => by cases locked
  spared := fun _ _ _ _ locked => by cases locked

theorem locks_unlocked {other : K} {lock : Lock R}
    (locked : Function.update s.locks key none other = some lock) :
    s.locks other = some lock := by
  by_cases same : other = key
  · rw [same, Function.update_self] at locked
    cases locked
  · exact (Function.update_of_ne same _ _).symm.trans locked

theorem Referential.unlock (held : Referential references s) :
    Referential references { s with locks := Function.update s.locks key none } where
  rows := held.rows
  written := fun other parent x row refers locked =>
    held.written other parent x row refers (locks_unlocked locked)
  spared := fun other parent x refers locked =>
    held.spared other parent x refers (locks_unlocked locked)

theorem Referential.release (held : Referential references s) :
    Referential references (s.release xid key) := by
  unfold Store.release
  split
  · split
    · exact held.unlock
    · exact held
  · exact held

theorem Referential.lock (held : Referential references s) {written : Option (Option R)}
    (inserts : ∀ row parent, written = some (some row) → references key = some parent →
      (s.rows parent).isSome = true)
    (deletes : written = some none → ∀ other, references other ≠ some key) :
    Referential references (s.lock xid key written) where
  rows := held.rows
  written := by
    intro other parent x row refers locked
    by_cases same : other = key
    · subst same
      cases (Function.update_self other _ s.locks).symm.trans locked
      exact inserts row parent rfl refers
    · exact held.written other parent x row refers
        ((Function.update_of_ne same _ s.locks).symm.trans locked)
  spared := by
    intro other parent x refers locked
    by_cases same : parent = key
    · subst same
      cases (Function.update_self parent _ s.locks).symm.trans locked
      exact deletes rfl other refers
    · exact held.spared other parent x refers
        ((Function.update_of_ne same _ s.locks).symm.trans locked)

theorem Referential.update (held : Referential references s) {row : Option R}
    {locks : K → Option (Lock R)} (fewer : ∀ other lock, locks other = some lock →
      s.locks other = some lock)
    (inserts : ∀ parent, row.isSome = true → references key = some parent →
      (s.rows parent).isSome = true)
    (deletes : row = none → ∀ other, references other ≠ some key) :
    Referential references { s with rows := Function.update s.rows key row, locks := locks } := by
  have stays : ∀ other parent, references other = some parent → (s.rows parent).isSome = true →
      (Function.update s.rows key row parent).isSome = true := by
    intro other parent refers present
    by_cases same : parent = key
    · subst same
      rw [Function.update_self]
      cases row with
      | some row => rfl
      | none => exact absurd refers (deletes rfl other)
    · rw [Function.update_of_ne same]
      exact present
  refine ⟨?_, ?_, ?_⟩
  · intro other parent refers present
    refine stays other parent refers ?_
    change (Function.update s.rows key row other).isSome = true at present
    by_cases same : other = key
    · subst same
      rw [Function.update_self] at present
      exact inserts parent present refers
    · rw [Function.update_of_ne same] at present
      exact held.rows other parent refers present
  · intro other parent x written refers locked
    exact stays other parent refers (held.written other parent x written refers
      (fewer other _ locked))
  · exact fun other parent x refers locked => held.spared other parent x refers
      (fewer parent _ locked)

theorem Referential.commit (held : Referential references s) :
    Referential references (s.commit xid key) := by
  unfold Store.commit
  split
  · rename_i lock locked
    split
    · obtain ⟨owner, written⟩ := lock
      cases written with
      | none => exact held.unlock
      | some row =>
          refine held.update (fun _ _ => locks_unlocked)
            (fun parent present refers => ?_) fun gone other refers => ?_
          · obtain ⟨row, rfl⟩ := Option.isSome_iff_exists.mp present
            exact held.written key parent owner row refers locked
          · subst gone
            exact held.spared other key owner refers locked
    · exact held
  · exact held

omit [DecidableEq K] in
theorem satisfied_present {parent : K} (allowed : satisfied references s key = true)
    (refers : references key = some parent) : (s.rows parent).isSome = true := by
  rw [satisfied, refers] at allowed
  exact allowed

theorem Referential.perform (held : Referential references s) (spares : Spares references st) :
    Referential references (perform references s st).2 := by
  cases st with
  | select key => exact held
  | begin => exact ⟨held.rows, held.written, held.spared⟩
  | insertIfAbsent key row =>
      unfold Rows.perform
      dsimp only
      split
      · exact held
      · split
        · rename_i allowed
          exact held.update (fun _ _ locked => locked)
            (fun parent _ refers => satisfied_present allowed refers) nofun
        · exact held
  | selectForUpdate xid key =>
      unfold Rows.perform
      dsimp only
      split
      · exact held.lock nofun nofun
      · exact held
  | insert xid key row =>
      unfold Rows.perform
      dsimp only
      split
      · exact held.release
      · split
        · rename_i allowed
          exact held.lock (fun _ parent _ refers => satisfied_present allowed refers) nofun
        · exact held.release
  | update xid key row =>
      unfold Rows.perform
      dsimp only
      split
      · rename_i present
        exact held.lock (fun _ parent _ refers => held.rows key parent refers present) nofun
      · exact held
  | delete xid key =>
      unfold Rows.perform
      dsimp only
      split
      · exact held.lock nofun fun _ other => spares other
      · exact held
  | commit xid key => exact held.commit
  | rollback xid key => exact held.release

theorem Referential.execute (held : Referential references s) (spares : Spares references st) :
    Referential references (execute references delivery s st).2 := by
  have abandoned : Referential references (abandon s st) := by
    unfold abandon
    split
    · exact held.release
    · exact held
  cases delivery with
  | answered => exact held.perform spares
  | failed => exact abandoned
  | unanswered =>
      unfold Rows.execute
      dsimp only
      split
      · exact held.perform spares
      · exact abandoned

omit [DecidableEq K]

theorem concludeAbsent_spares (verdict : Verdict R α) :
    (concludeAbsent xid key verdict : Dialogue K R α).run.Only (Spares references) := by
  cases verdict with
  | reject a => exact ⟨trivial, fun _ => trivial⟩
  | write row a =>
      refine ⟨trivial, ?_⟩
      rintro (e | u)
      · trivial
      · refine ⟨trivial, ?_⟩
        rintro (e | u) <;> trivial

theorem concludePresent_spares {verdict : Verdict (Option R) α}
    (spares : ∀ a, verdict = .write none a → ∀ other, references other ≠ some key) :
    (concludePresent xid key verdict : Dialogue K R α).run.Only (Spares references) := by
  cases verdict with
  | reject a => exact ⟨trivial, fun _ => trivial⟩
  | write row a =>
      cases row with
      | some row =>
          refine ⟨trivial, ?_⟩
          rintro (e | u)
          · trivial
          · refine ⟨trivial, ?_⟩
            rintro (e | u) <;> trivial
      | none =>
          refine ⟨spares a rfl, ?_⟩
          rintro (e | u)
          · trivial
          · refine ⟨trivial, ?_⟩
            rintro (e | u) <;> trivial

theorem Operation.dialogue_spares {op : Operation K R α} (spares : op.Spares references) :
    op.dialogue.run.Only (Rows.Spares references) := by
  cases op with
  | answer a => trivial
  | read key conclude =>
      refine ⟨trivial, ?_⟩
      rintro (e | found) <;> trivial
  | create key row won lost =>
      refine ⟨trivial, ?_⟩
      rintro (e | inserted)
      · trivial
      · cases inserted with
        | true => trivial
        | false =>
            refine ⟨trivial, ?_⟩
            rintro (e | found)
            · trivial
            · cases found <;> trivial
  | locked key absent present =>
      refine ⟨trivial, ?_⟩
      rintro (e | xid)
      · trivial
      · refine ⟨trivial, ?_⟩
        rintro (e | found)
        · trivial
        · cases found with
          | none => exact concludeAbsent_spares absent
          | some current => exact concludePresent_spares fun a => spares current a

end Referential

end GreenticDeployer.Lib.Rows
