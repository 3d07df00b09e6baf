import GreenticDeployer.Engine.Lifecycle
import GreenticDeployer.Engine.Routing
import GreenticDeployer.Store.PostgresCalls
import GreenticDeployer.Store.PlainJson

/-!
# Clients of the Postgres store

Any number of clients, their statements interleaved in any order, any of them failing or
never answered. Every run is a serial one. A write to an environment or to its runtime
that was acknowledged stays, and no two of them get the same generation.
-/

set_option maxHeartbeats 200000

namespace GreenticDeployer.Store.Postgres

open Spec Engine Lib Lib.Rows

variable {V : Type} (json : PgStoreJson V) (ext : Externals)

def PgCall.content : PgCall V → Option (PgKey × V)
  | createEnv env =>
    (prepareCreate json ext env).toOption.map (Prod.mk (.environment env.environmentId))
  | updateEnv env precondition =>
    (prepareUpdate json ext env precondition).toOption.map
      (Prod.mk (.environment env.environmentId))
  | upsertRuntime runtime _ =>
    (prepareRuntime json runtime).toOption.map (Prod.mk (.runtime runtime.environmentId))
  | upsertPackAnswers envId slot answers _ => some (.answers envId slot.asStr, answers)
  | _ => none

def PgCall.precondition : PgCall V → Option Precondition
  | updateEnv _ precondition => some precondition
  | upsertRuntime _ precondition => precondition
  | upsertPackAnswers _ _ _ precondition => precondition
  | deletePackAnswers _ _ precondition => some precondition
  | _ => none

/-- What a call does to the rows: nothing, or it writes the first or the next generation
of its row, or it deletes answers. -/
inductive Step (rows : PgKey → Option (PgRow V)) :
    PgCall V → PgAnswer V → (PgKey → Option (PgRow V)) → Prop
  | silent {call a} (unwritten : ∀ r, a ≠ .ok (.revision r)) : Step rows call a rows
  | created {call : PgCall V} {key data} (content : call.content json ext = some (key, data))
      (absent : rows key = none) (free : call.precondition.any (·.isConditional) = false) :
      Step rows call (.ok (.revision (pgRow json 1 data).revision))
        (Function.update rows key (some (pgRow json 1 data)))
  | overwritten {call : PgCall V} {key data current pc}
      (content : call.content json ext = some (key, data)) (present : rows key = some current)
      (pinned : call.precondition = some pc)
      (passed : pc.check current.etag current.generation = .ok ()) :
      Step rows call (.ok (.revision (successor json data current).revision))
        (Function.update rows key (some (successor json data current)))
  | deleted {envId slot pc current} (present : rows (.answers envId slot.asStr) = some current)
      (passed : pc.check current.etag current.generation = .ok ()) :
      Step rows (.deletePackAnswers envId slot pc) (.ok .deleted)
        (Function.update rows (.answers envId slot.asStr) none)

section Steps

variable {json : PgStoreJson V} {ext : Externals} {rows : PgKey → Option (PgRow V)}

theorem checkPrecondition_ok {envId : EnvId} {precondition : Option Precondition}
    {current : PgRow V} (passed : checkPrecondition envId precondition current = .ok ()) :
    ∃ pc, precondition = some pc ∧ pc.check current.etag current.generation = .ok () := by
  unfold checkPrecondition at passed
  split at passed
  · cases passed
  · rename_i pc
    split at passed
    · cases passed
    · rename_i checked
      exact ⟨pc, rfl, checked⟩

theorem Step.refused {call : PgCall V} (e : PgFailure) : Step json ext rows call (.error e) rows :=
  .silent fun _ same => by cases same

theorem overwrite_steps {call : PgCall V} {key : PgKey} {envId : EnvId} {data : V}
    {current : PgRow V} {absent : Verdict (PgRow V) (PgAnswer V)}
    (content : call.content json ext = some (key, data)) (present : rows key = some current) :
    let outcome := Operation.apply rows
      (.locked key absent (overwrite json envId data call.precondition))
    Step json ext rows call outcome.1 outcome.2 := by
  simp only [Operation.apply, present, overwrite, compareAndSet]
  cases checked : checkPrecondition envId call.precondition current with
  | error e => exact .refused _
  | ok _ =>
      obtain ⟨pc, pinned, passed⟩ := checkPrecondition_ok checked
      exact .overwritten content present pinned passed

theorem upsert_steps {call : PgCall V} {key : PgKey} {envId : EnvId} {data : V}
    (content : call.content json ext = some (key, data)) :
    let outcome := Operation.apply rows (.locked key (firstRow json envId data call.precondition)
      (overwrite json envId data call.precondition))
    Step json ext rows call outcome.1 outcome.2 := by
  cases found : rows key with
  | some current => exact overwrite_steps content found
  | none =>
      simp only [Operation.apply, found, firstRow]
      split
      · rename_i refused
        split at refused
        · cases refused
          exact .refused _
        · cases refused
      · rename_i row a wrote
        split at wrote
        · cases wrote
        · rename_i free
          cases wrote
          exact .created content found (Bool.not_eq_true _ ▸ free)

theorem load_steps {α : Type} {call : PgCall V} {key : PgKey} {missing : PgAnswer V}
    {decode : PgRow V → Except PgFailure α} {reply : α → PgReply V}
    (unfound : ∀ r, missing ≠ .ok (.revision r)) (reads : ∀ a r, reply a ≠ .revision r) :
    let outcome := Operation.apply rows
      (.read key fun | none => missing | some row => (decode row).map reply)
    Step json ext rows call outcome.1 outcome.2 := by
  refine .silent fun r => ?_
  simp only [Operation.apply]
  cases rows key with
  | none => exact unfound r
  | some row =>
      simp only
      cases decode row with
      | error e => exact fun same => by cases same
      | ok a => exact fun same => reads a r (Except.ok.inj same)

theorem PgCall.steps (call : PgCall V) (rows : PgKey → Option (PgRow V)) :
    Step json ext rows call ((call.operation json ext).apply rows).1
      ((call.operation json ext).apply rows).2 := by
  cases call with
  | envExists envId => exact .silent fun _ same => by cases same
  | loadEnv envId =>
      exact load_steps (fun _ same => by cases same) fun _ _ same => by cases same
  | createEnv env =>
      simp only [operation]
      cases ready : prepareCreate json ext env with
      | error e => exact .refused _
      | ok data =>
          simp only [prepared, Operation.apply]
          cases found : rows (.environment env.environmentId) with
          | some existing => exact .refused _
          | none => exact .created (by rw [content, ready]; rfl) found rfl
  | updateEnv env precondition =>
      simp only [operation]
      cases ready : prepareUpdate json ext env precondition with
      | error e => exact .refused _
      | ok data =>
          have content : (updateEnv env precondition).content json ext =
              some (.environment env.environmentId, data) := by rw [content, ready]; rfl
          cases found : rows (.environment env.environmentId) with
          | some current => exact overwrite_steps content found
          | none =>
              simp only [prepared, Operation.apply, found]
              exact .refused _
  | loadRuntime envId =>
      exact load_steps (fun _ same => by cases same) fun _ _ same => by cases same
  | upsertRuntime runtime precondition =>
      simp only [operation]
      cases ready : prepareRuntime json runtime with
      | error e => exact .refused _
      | ok data =>
          exact @upsert_steps _ _ _ _ (upsertRuntime runtime precondition) _ _ _
            (by rw [content, ready]; rfl)
  | loadPackAnswers envId slot =>
      exact load_steps (fun _ same => by cases same) fun _ _ same => by cases same
  | upsertPackAnswers envId slot answers precondition =>
      exact @upsert_steps _ _ _ _ (upsertPackAnswers envId slot answers precondition) _ _ _ rfl
  | deletePackAnswers envId slot precondition =>
      simp only [operation]
      split
      · exact .refused _
      · cases found : rows (.answers envId slot.asStr) with
        | none =>
            simp only [Operation.apply, found]
            exact .silent fun _ same => by cases same
        | some current =>
            simp only [Operation.apply, found, compareAndSet]
            cases checked : checkPrecondition envId (some precondition) current with
            | error e => exact .refused _
            | ok _ =>
                obtain ⟨pc, pinned, passed⟩ := checkPrecondition_ok checked
                cases pinned
                exact .deleted found passed

def PgKey.kept : PgKey → Bool
  | answers _ _ => false
  | _ => true

/-- A row stays, and stays what it is until its generation is higher. -/
def Grows (before after : Option (PgRow V)) : Prop :=
  ∀ row, before = some row → ∃ row', after = some row' ∧ row.generation ≤ row'.generation ∧
    (row'.generation = row.generation → row' = row)

theorem Grows.refl (row : Option (PgRow V)) : Grows row row :=
  fun current found => ⟨current, found, le_rfl, fun _ => rfl⟩

theorem Grows.trans {first second third : Option (PgRow V)} (early : Grows first second)
    (late : Grows second third) : Grows first third := by
  intro row found
  obtain ⟨middle, present, grown, same⟩ := early row found
  obtain ⟨last, written, further, alike⟩ := late middle present
  refine ⟨last, written, grown.trans further, fun level => ?_⟩
  have halfway : middle.generation = row.generation := by omega
  rw [alike (level.trans halfway.symm), same halfway]

theorem Step.grows {call : PgCall V} {a : PgAnswer V} {after : PgKey → Option (PgRow V)}
    {key : PgKey} (step : Step json ext rows call a after) (kept : key.kept = true) :
    Grows (rows key) (after key) := by
  cases step with
  | silent unwritten => exact .refl _
  | @created call written data content absent free =>
      intro row found
      rw [Function.update_of_ne (fun same => ?_)]
      · exact Grows.refl _ row found
      · rw [same, absent] at found
        cases found
  | @overwritten call written data current pc content present pinned passed =>
      intro row found
      by_cases same : key = written
      · subst same
        cases present.symm.trans found
        refine ⟨_, Function.update_self _ _ _, Nat.le_succ _, fun level => ?_⟩
        exact absurd level (Nat.succ_ne_self _)
      · rw [Function.update_of_ne same]
        exact Grows.refl _ row found
  | @deleted envId slot pc current present passed =>
      rw [Function.update_of_ne (fun same => ?_)]
      · exact .refl _
      · rw [same] at kept
        cases kept

theorem Step.wrote {call : PgCall V} {r : EnvRevision} {after : PgKey → Option (PgRow V)}
    (step : Step json ext rows call (.ok (.revision r)) after) {key : PgKey} {data : V}
    (content : call.content json ext = some (key, data)) :
    after key = some (pgRow json r.generation data) ∧
      r = (pgRow json r.generation data).revision ∧
      (∀ row, rows key = some row → r.generation = row.generation + 1) ∧
      ∀ pc pin, call.precondition = some pc → pc.expectedGeneration = some pin →
        r.generation = pin + 1 := by
  generalize answer : (.ok (.revision r) : PgAnswer V) = a at step
  cases step with
  | silent unwritten => exact absurd answer.symm (unwritten r)
  | deleted => cases answer
  | created own absent free =>
      cases own.symm.trans content
      cases answer
      refine ⟨Function.update_self _ _ _, rfl, fun row found => ?_, fun pc pin given pinned => ?_⟩
      · cases absent.symm.trans found
      · rw [given, Option.any_some, Precondition.isConditional, pinned, Option.isSome_some,
          Bool.or_true] at free
        cases free
  | overwritten own present pinned passed =>
      cases own.symm.trans content
      cases answer
      refine ⟨Function.update_self _ _ _, rfl, fun row found => ?_, fun pc pin given expected => ?_⟩
      · cases present.symm.trans found
        rfl
      · cases pinned.symm.trans given
        rw [(Precondition.check_ok passed).2.2 pin expected]
        rfl

end Steps

abbrev History (V : Type) := List (Nat × PgCall V)

def rowsAfter (history : History V) : PgKey → Option (PgRow V) :=
  (oneByOne (PgCall.operation json ext) history).2

section Histories

variable {json : PgStoreJson V} {ext : Externals} {history past later : History V} {key : PgKey}

theorem rowsAfter_step (entry : Nat × PgCall V) :
    Step json ext (rowsAfter json ext history) entry.2
      ((entry.2.operation json ext).apply (rowsAfter json ext history)).1
      (rowsAfter json ext (history ++ [entry])) := by
  have stepped : Step json ext (rowsAfter json ext history) entry.2 _ _ :=
    entry.2.steps (rowsAfter json ext history)
  have after : rowsAfter json ext (history ++ [entry]) =
      ((entry.2.operation json ext).apply (rowsAfter json ext history)).2 := by
    rw [rowsAfter, oneByOne_snoc]
    rfl
  rw [after]
  exact stepped

theorem rowsAfter_grows (kept : key.kept = true) (later : History V) :
    Grows (rowsAfter json ext history key) (rowsAfter json ext (history ++ later) key) := by
  induction later using List.reverseRecOn with
  | nil =>
      rw [List.append_nil]
      exact .refl _
  | append_singleton rest entry ih =>
      rw [← List.append_assoc]
      exact ih.trans ((rowsAfter_step entry).grows kept)

structure WroteAt (json : PgStoreJson V) (ext : Externals) (past : History V) (key : PgKey)
    (entry : Nat × PgCall V) (data : V) (r : EnvRevision) : Prop where
  content : entry.2.content json ext = some (key, data)
  revision : ((entry.2.operation json ext).apply (rowsAfter json ext past)).1 = .ok (.revision r)

theorem WroteAt.wrote {entry : Nat × PgCall V} {data : V} {r : EnvRevision}
    (place : WroteAt json ext past key entry data r) :
    rowsAfter json ext (past ++ [entry]) key = some (pgRow json r.generation data) ∧
      r = (pgRow json r.generation data).revision ∧
      (∀ row, rowsAfter json ext past key = some row → r.generation = row.generation + 1) ∧
      ∀ pc pin, entry.2.precondition = some pc → pc.expectedGeneration = some pin →
        r.generation = pin + 1 := by
  have stepped : Step json ext (rowsAfter json ext past) entry.2 _ _ := rowsAfter_step entry
  rw [place.revision] at stepped
  exact stepped.wrote place.content

/-- What a client has written is there from then on. -/
theorem WroteAt.stays {entry : Nat × PgCall V} {data : V} {r : EnvRevision}
    (place : WroteAt json ext past key entry data r) (kept : key.kept = true) :
    ∃ row, rowsAfter json ext (past ++ entry :: later) key = some row ∧
      r.generation ≤ row.generation ∧
      (row.generation = r.generation → row = pgRow json r.generation data) := by
  have grown : Grows (rowsAfter json ext (past ++ [entry]) key) _ := rowsAfter_grows kept later
  rw [List.append_assoc] at grown
  exact grown _ place.wrote.1

/-- Whoever writes later gets a higher generation. -/
theorem WroteAt.below {entry other : Nat × PgCall V} {data data' : V} {r r' : EnvRevision}
    (place : WroteAt json ext past key entry data r)
    (next : WroteAt json ext (past ++ entry :: later) key other data' r')
    (kept : key.kept = true) : r.generation < r'.generation := by
  have stays : ∃ row, rowsAfter json ext (past ++ entry :: later) key = some row ∧
      r.generation ≤ row.generation ∧ _ := place.stays kept
  obtain ⟨row, found, grown, _⟩ := stays
  have stepped := next.wrote.2.2.1 row found
  omega

theorem places_apart {first second : Nat × PgCall V} {past' later' : History V}
    (split : history = past ++ first :: later) (split' : history = past' ++ second :: later')
    (apart : first.1 ≠ second.1) :
    (∃ mid, past' = past ++ first :: mid) ∨ ∃ mid, past = past' ++ second :: mid := by
  rcases List.append_eq_append_iff.mp (split.symm.trans split') with
    ⟨mid, rfl, rest⟩ | ⟨mid, rfl, rest⟩
  · cases mid with
    | nil => exact absurd (congrArg Prod.fst (List.cons.inj rest).1) apart
    | cons entry mid =>
        rw [(List.cons.inj rest).1]
        exact .inl ⟨mid, rfl⟩
  · cases mid with
    | nil => exact absurd (congrArg Prod.fst (List.cons.inj rest).1).symm apart
    | cons entry mid =>
        rw [(List.cons.inj rest).1]
        exact .inr ⟨mid, rfl⟩

end Histories

abbrev PgPool (V : Type) := Clients PgKey (PgRow V) (PgAnswer V) (PgCall V)

/-- The clients and the database after a run from a freshly migrated database. -/
def poolAfter (moves : List (Move (PgCall V))) : PgPool V :=
  (postgresRuns json ext).run ⟨Store.empty, []⟩ moves

/-- No client moved while its statement had to wait. -/
def Possible (moves : List (Move (PgCall V))) : Prop :=
  (postgresRuns json ext).Admits ⟨Store.empty, []⟩ moves

instance (moves : List (Move (PgCall V))) : Decidable (Possible json ext moves) :=
  inferInstanceAs (Decidable ((databaseRuns PgKey.references (PgCall.body json ext)).Admits
    ⟨Store.empty, []⟩ moves))

section Runs

variable {json : PgStoreJson V} {ext : Externals} {before after : List (Move (PgCall V))}

/-- Every run of the store is a serial one: its clients, each at most once and with the
answers they have got, one after another. Nobody who was answered moves, and nobody takes
a place before those who were. -/
theorem clients_are_served_one_by_one (possible : Possible json ext (before ++ after)) :
    ∃ history later,
      Linearized (PgCall.operation json ext) (poolAfter json ext before) history ∧
      Linearized (PgCall.operation json ext) (poolAfter json ext (before ++ after))
        (history ++ later) ∧
      ∀ entry ∈ later, Unanswered (poolAfter json ext before) entry.1 :=
  linearizable PgCall.dialogued possible

/-- Columns that give back what was bound. -/
def plainPgJson : PgStoreJson PlainValue := { plainJson with column := id }

def turns (i n : Nat) : List (Move (PgCall PlainValue)) := List.replicate n (.advance i .answered)

def renamed : Environment := { localFresh with name := "renamed" }

def pinnedToFirst : Precondition := ⟨none, some 1⟩

/-- Two writers pin the first generation of an environment, and one has it locked while the
other begins. -/
def racing : List (Move (PgCall PlainValue)) :=
  .arrive (.createEnv localFresh) :: turns 0 1 ++
    [.arrive (.updateEnv renamed pinnedToFirst), .arrive (.updateEnv localFresh pinnedToFirst)] ++
    turns 1 2 ++ turns 2 1 ++ turns 1 2

/-- The other finds the lock released, and the environment changed. -/
def raced : List (Move (PgCall PlainValue)) :=
  turns 2 1 ++ [.advance 2 .unanswered, .arrive (.loadEnv localFresh.environmentId)] ++ turns 3 1

theorem clients_are_served_one_by_one_racing :
    ∃ history later,
      Linearized (PgCall.operation plainPgJson noExternals)
        (poolAfter plainPgJson noExternals racing) history ∧
      Linearized (PgCall.operation plainPgJson noExternals)
        (poolAfter plainPgJson noExternals (racing ++ raced)) (history ++ later) ∧
      ∀ entry ∈ later, Unanswered (poolAfter plainPgJson noExternals racing) entry.1 :=
  clients_are_served_one_by_one (by decide)

theorem linearized_pool {moves : List (Move (PgCall V))} (possible : Possible json ext moves) :
    ∃ history, Linearized (PgCall.operation json ext) (poolAfter json ext moves) history :=
  linearized_run PgCall.dialogued possible

def Acknowledged (pool : PgPool V) (i : Nat) (call : PgCall V) (r : EnvRevision) : Prop :=
  ∃ task, pool.tasks[i]? = some task ∧ task.tag = call ∧
    task.program = .done (.ok (.ok (.revision r)))

theorem Acknowledged.place {pool : PgPool V} {history : History V} {i : Nat} {call : PgCall V}
    {r : EnvRevision} (acknowledged : Acknowledged pool i call r)
    (linearized : Linearized (PgCall.operation json ext) pool history) {key : PgKey} {data : V}
    (content : call.content json ext = some (key, data)) :
    ∃ past later, history = past ++ (i, call) :: later ∧
      WroteAt json ext past key (i, call) data r := by
  obtain ⟨task, found, rfl, done⟩ := acknowledged
  obtain ⟨past, tag, later, split, answered⟩ :=
    mem_oneByOne.mp (linearized.answered i task _ found done)
  obtain ⟨known, present, tagged⟩ := linearized.known (i, tag) (by
    rw [split]
    exact List.mem_append_right _ List.mem_cons_self)
  cases found.symm.trans present
  cases tagged
  exact ⟨past, later, split, content, answered.symm⟩

/-- Of the writes to an environment or to its runtime no two get the same generation, and
one that starts when another was acknowledged gets a higher one. A pinned write gets the
generation after its pin, so of two with one pin at most one succeeds. An acknowledged
write is what the row holds until a later one. -/
theorem acknowledged_writes_are_kept (possible : Possible json ext (before ++ after)) {key : PgKey}
    (kept : key.kept = true) {i j : Nat} (apart : i ≠ j) {call other : PgCall V} {data data' : V}
    {r r' : EnvRevision} (content : call.content json ext = some (key, data))
    (content' : other.content json ext = some (key, data'))
    (first : Acknowledged (poolAfter json ext before) i call r)
    (second : Acknowledged (poolAfter json ext (before ++ after)) j other r') :
    r.generation ≠ r'.generation ∧
      ((poolAfter json ext before).tasks.length ≤ j → r.generation < r'.generation) ∧
      (∀ pc pin, other.precondition = some pc → pc.expectedGeneration = some pin →
        r'.generation = pin + 1) ∧
      ∃ row, (poolAfter json ext (before ++ after)).shared.rows key = some row ∧
        r.generation ≤ row.generation ∧
        (row.generation = r.generation → row = pgRow json r.generation data) := by
  obtain ⟨history, later, early, late, _⟩ := clients_are_served_one_by_one possible
  obtain ⟨past, rest, split, place⟩ := first.place early content
  obtain ⟨past', rest', split', place'⟩ := second.place late content'
  have whole : history ++ later = past ++ (i, call) :: (rest ++ later) := by
    rw [split, List.append_assoc]
    rfl
  have order : r.generation < r'.generation ∨
      r'.generation < r.generation ∧ ∃ mid, past = past' ++ (j, other) :: mid := by
    rcases places_apart whole split' apart with ⟨mid, rfl⟩ | ⟨mid, rfl⟩
    · exact .inl (place.below place' kept)
    · exact .inr ⟨place'.below place kept, mid, rfl⟩
  refine ⟨?_, fun unarrived => ?_, place'.wrote.2.2.2, ?_⟩
  · rcases order with below | ⟨above, _⟩
    · exact below.ne
    · exact above.ne'
  · rcases order with below | ⟨_, mid, rfl⟩
    · exact below
    · obtain ⟨task, found, _⟩ := early.known (j, other) (by
        rw [split]
        exact List.mem_append_left _ (List.mem_append_right _ List.mem_cons_self))
      exact absurd (List.getElem?_eq_some_iff.mp found).1 (Nat.not_lt.mpr unarrived)
  · rw [late.rows, whole]
    exact place.stays kept

theorem acknowledged_writes_are_kept_racing :
    ∃ row, (poolAfter plainPgJson noExternals (racing ++ raced)).shared.rows
        (.environment localFresh.environmentId) = some row ∧ 1 ≤ row.generation := by
  have first : Acknowledged (poolAfter plainPgJson noExternals racing) 0 (.createEnv localFresh)
      (pgRow plainPgJson 1 (.doc (.environment localFresh))).revision := ⟨_, rfl, rfl, rfl⟩
  have second : Acknowledged (poolAfter plainPgJson noExternals (racing ++ raced)) 1
      (.updateEnv renamed pinnedToFirst)
      (pgRow plainPgJson 2 (.doc (.environment renamed))).revision := ⟨_, rfl, rfl, rfl⟩
  obtain ⟨_, _, _, row, found, grown, _⟩ := acknowledged_writes_are_kept
    (by decide) rfl (by decide) rfl rfl first second
  exact ⟨row, found, grown⟩

end Runs

end GreenticDeployer.Store.Postgres
