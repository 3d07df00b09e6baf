import GreenticDeployer.Store.Tables

/-!
# Pack answers in Postgres

One row of the Postgres store's `pack_answers`, each call one serialised
transaction. A delete removes the row, so the count of its generations starts
over when it is created again.
-/

set_option maxHeartbeats 200000

namespace GreenticDeployer.Store.Postgres

open Spec

variable {V : Type}

structure AnswersRow (V : Type) where
  generation : Nat
  etag : StateEtag
  data : V
  integrityDigest : String
  deriving DecidableEq, Repr

inductive PgStoreError where
  | notFound (envId : EnvId)
  | preconditionRequired
  | preconditionFailed (envId : EnvId) (conflict : ConcurrencyConflict)
  deriving DecidableEq, Repr

def PgStoreError.fromPrecondition (envId : EnvId) : PreconditionError → PgStoreError
  | .required => .preconditionRequired
  | .conflict conflict => .preconditionFailed envId conflict

/-- The digest of a value's canonical form, the etag made from it, and what a `JSONB`
column gives back for a value: it prints numbers its own way. -/
structure PgJson (V : Type) where
  digest : V → String
  etag : String → StateEtag
  column : V → V

section Transactions

variable (json : PgJson V) (envId : EnvId)

def stored (generation : Nat) (answers : V) : AnswersRow V :=
  let digest := json.digest answers
  ⟨generation, json.etag digest, json.column answers, digest⟩

def upsertPackAnswers (answers : V) (precondition : Option Precondition)
    (row : Option (AnswersRow V)) : Except PgStoreError EnvRevision × Option (AnswersRow V) :=
  match row with
  | none =>
    if precondition.any (·.isConditional) then (.error (.notFound envId), row)
    else
      let created := stored json 1 answers
      (.ok ⟨created.generation, created.etag⟩, some created)
  | some current =>
    match precondition with
    | none => (.error .preconditionRequired, row)
    | some pc =>
      match pc.check current.etag current.generation with
      | .error e => (.error (.fromPrecondition envId e), row)
      | .ok () =>
        let next := stored json (current.generation + 1) answers
        (.ok ⟨next.generation, next.etag⟩, some next)

def deletePackAnswers (precondition : Precondition) (row : Option (AnswersRow V)) :
    Except PgStoreError Unit × Option (AnswersRow V) :=
  if ¬ precondition.isConditional then (.error .preconditionRequired, row)
  else
    match row with
    | none => (.ok (), row)
    | some current =>
      match precondition.check current.etag current.generation with
      | .error e => (.error (.fromPrecondition envId e), row)
      | .ok () => (.ok (), none)

inductive AnswersCall (V : Type) where
  | upsert (answers : V) (precondition : Option Precondition)
  | delete (precondition : Precondition)

def AnswersCall.precondition : AnswersCall V → Option Precondition
  | upsert _ precondition => precondition
  | delete precondition => some precondition

def AnswersCall.after (row : Option (AnswersRow V)) : AnswersCall V → Option (AnswersRow V)
  | upsert answers precondition => (upsertPackAnswers json envId answers precondition row).2
  | delete precondition => (deletePackAnswers envId precondition row).2

/-- The call succeeds and has written or removed the row. A delete that finds no row
removes nothing. -/
def AnswersCall.takesEffect (row : Option (AnswersRow V)) : AnswersCall V → Bool
  | upsert answers precondition => (upsertPackAnswers json envId answers precondition row).1.isOk
  | delete precondition => row.isSome && (deletePackAnswers envId precondition row).1.isOk

def run (row : Option (AnswersRow V)) (calls : List (AnswersCall V)) : Option (AnswersRow V) :=
  calls.foldl (fun row call => call.after json envId row) row

/-- Some call of the run takes effect. -/
def Moves (row : Option (AnswersRow V)) : List (AnswersCall V) → Prop
  | [] => False
  | call :: rest =>
    call.takesEffect json envId row = true ∨ Moves (call.after json envId row) rest

def AnswersCall.counts (row : Option (AnswersRow V)) (since : Option Nat) :
    AnswersCall V → Option Nat
  | upsert answers precondition =>
    if (upsert answers precondition).takesEffect json envId row then since.map (· + 1) else since
  | delete precondition =>
    if (delete precondition).takesEffect json envId row then some 0 else since

def writesSinceDelete (row : Option (AnswersRow V)) (since : Option Nat) :
    List (AnswersCall V) → Option Nat
  | [] => since
  | call :: rest =>
    writesSinceDelete (call.after json envId row) (call.counts json envId row since) rest

end Transactions

section Steps

variable {json : PgJson V} {envId : EnvId} {row : Option (AnswersRow V)} {call : AnswersCall V}

theorem check_isOk {pc : Precondition} {etag : StateEtag} {generation : Nat} :
    (pc.check etag generation).isOk = true ↔ pc.isConditional = true ∧
      (∀ pin ∈ pc.ifMatch, pin = etag) ∧ ∀ pin ∈ pc.expectedGeneration, pin = generation := by
  constructor
  · intro passed
    cases checked : pc.check etag generation with
    | error e =>
        rw [checked] at passed
        cases passed
    | ok _ => exact Precondition.check_ok checked
  · rintro ⟨conditional, etags, generations⟩
    have met : pc.ifMatch.all (· = etag) ∧ pc.expectedGeneration.all (· = generation) := by
      simp only [Option.all_eq_true, decide_eq_true_eq]
      exact ⟨etags, generations⟩
    unfold Precondition.check
    rw [if_neg (by simpa using conditional), if_pos met]
    rfl

theorem AnswersCall.cases (json : PgJson V) (envId : EnvId) (row : Option (AnswersRow V))
    (call : AnswersCall V) (since : Option Nat) :
    (call.takesEffect json envId row = false ∧ call.after json envId row = row ∧
      call.counts json envId row since = since) ∨
    (call.takesEffect json envId row = true ∧ call.counts json envId row since = since.map (· + 1) ∧
      ∃ new, call.after json envId row = some new ∧
        new.generation = (row.map (·.generation)).getD 0 + 1) ∨
    (call.takesEffect json envId row = true ∧ call.counts json envId row since = some 0 ∧
      call.after json envId row = none) := by
  cases call with
  | upsert answers precondition =>
      unfold counts takesEffect after upsertPackAnswers
      cases row with
      | none =>
          by_cases conditional : precondition.any (·.isConditional) = true
          · simp [conditional, Except.isOk, Except.toBool]
          · simp [conditional, Except.isOk, Except.toBool, stored]
      | some current =>
          cases precondition with
          | none => simp [Except.isOk, Except.toBool]
          | some pc =>
              cases checked : pc.check current.etag current.generation with
              | error e => simp [checked, Except.isOk, Except.toBool]
              | ok _ => simp [checked, Except.isOk, Except.toBool, stored]
  | delete precondition =>
      unfold counts takesEffect after deletePackAnswers
      by_cases conditional : precondition.isConditional = true
      · cases row with
        | none => simp [conditional, Except.isOk, Except.toBool]
        | some current =>
            cases checked : precondition.check current.etag current.generation with
            | error e => simp [conditional, checked, Except.isOk, Except.toBool]
            | ok _ => simp [conditional, checked, Except.isOk, Except.toBool]
      · simp [conditional, Except.isOk, Except.toBool]

theorem AnswersCall.takesEffect_iff {pc : Precondition} (pinned : call.precondition = some pc)
    (conditional : pc.isConditional = true) :
    call.takesEffect json envId row = true ↔
      ∃ current, row = some current ∧ (pc.check current.etag current.generation).isOk = true := by
  cases call with
  | upsert answers precondition =>
      obtain rfl : precondition = some pc := pinned
      unfold takesEffect upsertPackAnswers
      cases row with
      | none => simp [conditional, Except.isOk, Except.toBool]
      | some current =>
          cases checked : pc.check current.etag current.generation with
          | error e => simp [checked, Except.isOk, Except.toBool]
          | ok _ => simp [checked, Except.isOk, Except.toBool]
  | delete precondition =>
      obtain rfl : precondition = pc := Option.some.inj pinned
      unfold takesEffect deletePackAnswers
      cases row with
      | none => simp
      | some current =>
          cases checked : precondition.check current.etag current.generation with
          | error e => simp [conditional, checked, Except.isOk, Except.toBool]
          | ok _ => simp [conditional, checked, Except.isOk, Except.toBool]

end Steps

section Runs

variable (json : PgJson V) (envId : EnvId)

/-- A row counts its generations: beyond the one observed until it is deleted, from
then on as many as there were writes. -/
def Counted (observed : Nat) (since : Option Nat) (row : Option (AnswersRow V)) : Prop :=
  match since with
  | none => ∃ current, row = some current ∧ observed < current.generation
  | some writes => (row.map (·.generation)).getD 0 = writes ∧ (row = none ↔ writes = 0)

theorem Counted.after {observed : Nat} {since : Option Nat} {row : Option (AnswersRow V)}
    (counted : Counted observed since row) (call : AnswersCall V) :
    Counted observed (call.counts json envId row since) (call.after json envId row) := by
  rcases call.cases json envId row since with
    ⟨_, same, count⟩ | ⟨_, count, new, written, generation⟩ | ⟨_, count, removed⟩
  · rw [same, count]
    exact counted
  · rw [written, count]
    cases since with
    | none =>
        obtain ⟨current, rfl, above⟩ := counted
        refine ⟨new, rfl, ?_⟩
        simp only [Option.map_some, Option.getD_some] at generation
        omega
    | some writes =>
        obtain ⟨current, _⟩ := counted
        simp [Counted, generation, current]
  · rw [removed, count]
    exact ⟨rfl, by simp⟩

theorem Counted.run {observed : Nat} {since : Option Nat} {row : Option (AnswersRow V)}
    (counted : Counted observed since row) (calls : List (AnswersCall V)) :
    Counted observed (writesSinceDelete json envId row since calls)
      (Postgres.run json envId row calls) := by
  induction calls generalizing row since with
  | nil => exact counted
  | cons call rest ih => exact ih (counted.after json envId call)

theorem counted_of_moves {old : AnswersRow V} {calls : List (AnswersCall V)}
    (moves : Moves json envId (some old) calls) :
    Counted old.generation (writesSinceDelete json envId (some old) none calls)
      (Postgres.run json envId (some old) calls) := by
  induction calls with
  | nil => exact moves.elim
  | cons call rest ih =>
      rcases call.cases json envId (some old) none with
        ⟨idle, same, count⟩ | ⟨_, count, new, written, generation⟩ | ⟨_, count, removed⟩
      · have later : Moves json envId (some old) rest := by
          rcases moves with now | later
          · rw [idle] at now
            cases now
          · rw [same] at later
            exact later
        have counted := ih later
        have unfolded : writesSinceDelete json envId (some old) none (call :: rest) =
            writesSinceDelete json envId (some old) none rest := by
          rw [writesSinceDelete, same, count]
        have ran : Postgres.run json envId (some old) (call :: rest) =
            Postgres.run json envId (some old) rest := by
          simp only [Postgres.run, List.foldl_cons, same]
        rw [unfolded, ran]
        exact counted
      · have counted : Counted old.generation (call.counts json envId (some old) none)
            (call.after json envId (some old)) := by
          rw [written, count]
          refine ⟨new, rfl, ?_⟩
          simp only [Option.map_some, Option.getD_some] at generation
          omega
        exact counted.run json envId rest
      · have counted : Counted old.generation (call.counts json envId (some old) none)
            (call.after json envId (some old)) := by
          rw [removed, count]
          exact ⟨rfl, by simp⟩
        exact counted.run json envId rest

theorem generation_pos (calls : List (AnswersCall V)) (row : Option (AnswersRow V))
    (positive : ∀ current ∈ row, 0 < current.generation) :
    ∀ current ∈ Postgres.run json envId row calls, 0 < current.generation := by
  induction calls generalizing row with
  | nil => exact positive
  | cons call rest ih =>
      refine ih (call.after json envId row) ?_
      rcases call.cases json envId row none with
        ⟨_, same, _⟩ | ⟨_, _, new, written, generation⟩ | ⟨_, _, removed⟩
      · rw [same]
        exact positive
      · rw [written]
        rintro _ ⟨⟩
        omega
      · rw [removed]
        exact nofun

/-- The row was deleted and written again, exactly as often as the generation that was
observed says, and the last write has the etag that is pinned, if one is. -/
def CameBack (old : AnswersRow V) (pc : Precondition) (between : List (AnswersCall V)) : Prop :=
  writesSinceDelete json envId (some old) none between = some old.generation ∧
    ∀ current ∈ Postgres.run json envId (some old) between, ∀ pin ∈ pc.ifMatch, pin = current.etag

/-- In every run, a call pinned to a generation that was observed before some other call
took effect does not take effect, unless the row has come back at that generation. -/
theorem stale_pins_fail_iff (past between : List (AnswersCall V)) (old : AnswersRow V)
    (observed : Postgres.run json envId none past = some old) (moves : Moves json envId (some old) between)
    (late : AnswersCall V) (pc : Precondition) (pinned : late.precondition = some pc)
    (generation : pc.expectedGeneration = some old.generation) :
    late.takesEffect json envId (Postgres.run json envId none (past ++ between)) = false ↔
      ¬ CameBack json envId old pc between := by
  have conditional : pc.isConditional = true := by
    simp [Precondition.isConditional, generation]
  have positive := generation_pos json envId past none nofun old observed
  have ran : Postgres.run json envId none (past ++ between) =
      Postgres.run json envId (some old) between := by
    rw [Postgres.run, List.foldl_append]
    exact congrArg (fun row => Postgres.run json envId row between) observed
  rw [ran, ← Bool.not_eq_true, AnswersCall.takesEffect_iff pinned conditional]
  refine not_congr ?_
  have counted := counted_of_moves json envId moves
  constructor
  · rintro ⟨current, present, passed⟩
    obtain ⟨_, etags, generations⟩ := check_isOk.mp passed
    have same : old.generation = current.generation := generations _ generation
    refine ⟨?_, ?_⟩
    · cases since : writesSinceDelete json envId (some old) none between with
      | none =>
          rw [since] at counted
          obtain ⟨row, found, above⟩ := counted
          rw [present] at found
          cases found
          omega
      | some writes =>
          rw [since] at counted
          have count := counted.1
          rw [present] at count
          rw [same]
          exact congrArg some count.symm
    · intro row found pin member
      rw [present] at found
      cases found
      exact etags pin member
  · rintro ⟨since, etags⟩
    rw [since] at counted
    obtain ⟨count, absent⟩ := counted
    cases present : Postgres.run json envId (some old) between with
    | none =>
        have none_ := absent.mp present
        omega
    | some current =>
        rw [present] at count
        refine ⟨current, rfl, check_isOk.mpr ⟨conditional, fun pin member => ?_, ?_⟩⟩
        · exact etags current present pin member
        · intro pin member
          rw [generation] at member
          cases member
          exact count.symm

end Runs

def textJson : PgJson String := ⟨id, StateEtag.mk, id⟩

def firstWrite : List (AnswersCall String) := [.upsert "a" none]

/-- Another client writes the row once more. -/
def anotherWrite : List (AnswersCall String) := [.upsert "b" (some ⟨none, some 1⟩)]

theorem write_outdates_the_pin :
    (AnswersCall.upsert "c" (some ⟨none, some 1⟩)).takesEffect textJson ⟨"local"⟩
      (run textJson ⟨"local"⟩ none (firstWrite ++ anotherWrite)) = false :=
  (stale_pins_fail_iff textJson ⟨"local"⟩ firstWrite anotherWrite ⟨1, ⟨"a"⟩, "a", "a"⟩ rfl
    (.inl rfl) (.upsert "c" (some ⟨none, some 1⟩)) ⟨none, some 1⟩ rfl rfl).mpr
    (fun back => absurd back.1 (by decide))

/-- Another client deletes the row and a third creates it again. -/
def deletedAndCreated : List (AnswersCall String) :=
  [.delete ⟨none, some 1⟩, .upsert "a" none]

/-- The pin observed before the delete, with its etag, is met again. -/
theorem recreated_row_meets_the_pin :
    run textJson ⟨"local"⟩ none firstWrite = some ⟨1, ⟨"a"⟩, "a", "a"⟩ ∧
    (AnswersCall.delete (V := String) ⟨none, some 1⟩).takesEffect textJson ⟨"local"⟩
      (run textJson ⟨"local"⟩ none firstWrite) = true ∧
    (AnswersCall.upsert "c" (some (.pinning ⟨"a"⟩ 1))).takesEffect textJson ⟨"local"⟩
      (run textJson ⟨"local"⟩ none (firstWrite ++ deletedAndCreated)) = true := by
  decide

end GreenticDeployer.Store.Postgres
