import GreenticDeployer.Store.PostgresLoads

/-!
# The tables of the Postgres store

What the migration promises of every row, and that a row of answers goes through its
serialised transactions alone, whoever else is at the database.
-/

set_option maxHeartbeats 200000

namespace GreenticDeployer.Store.Postgres

open Spec Engine Lib Lib.Rows

variable {V : Type} {json : PgStoreJson V} {ext : Externals}

theorem PgCall.spares (call : PgCall V) :
    (call.operation json ext).Spares PgKey.references := by
  have overwrites : ∀ key envId (data : V) precondition (absent : Verdict (PgRow V) (PgAnswer V)),
      (Operation.locked key absent (overwrite json envId data precondition)).Spares
        PgKey.references := by
    intro key envId data precondition absent current a deletes
    unfold overwrite compareAndSet at deletes
    split at deletes <;> cases deletes
  cases call with
  | createEnv env =>
      simp only [operation]
      cases prepareCreate json ext env <;> trivial
  | updateEnv env precondition =>
      simp only [operation]
      cases prepareUpdate json ext env precondition with
      | error e => trivial
      | ok data => exact overwrites _ _ _ _ _
  | upsertRuntime runtime precondition =>
      simp only [operation]
      cases prepareRuntime json runtime with
      | error e => trivial
      | ok data => exact overwrites _ _ _ _ _
  | upsertPackAnswers envId slot answers precondition => exact overwrites _ _ _ _ _
  | deletePackAnswers envId slot precondition =>
      simp only [operation]
      split
      · trivial
      · intro current a deletes key refers
        cases key <;> cases refers
  | _ => trivial

theorem Step.positive {rows after : PgKey → Option (PgRow V)} {call : PgCall V} {r : EnvRevision}
    (step : Step json ext rows call (.ok (.revision r)) after) : 0 < r.generation := by
  generalize answer : (.ok (.revision r) : PgAnswer V) = a at step
  cases step with
  | silent unwritten => exact absurd answer.symm (unwritten r)
  | deleted => cases answer
  | created =>
      cases answer
      exact Nat.zero_lt_one
  | overwritten =>
      cases answer
      exact Nat.succ_pos _

/-- In every run each row has a positive generation, and holds what the column made of a
value that one of the clients writes, under the digest of that value, which is also the
etag. The environment it belongs to is there. -/
theorem tables_are_consistent {moves : List (Move (PgCall V))} (possible : Possible json ext moves)
    {key : PgKey} {row : PgRow V}
    (present : (poolAfter json ext moves).shared.rows key = some row) :
    0 < row.generation ∧
      (∃ data, (∃ task ∈ (poolAfter json ext moves).tasks,
          task.tag.content json ext = some (key, data)) ∧
        row.data = json.column data ∧ row.integrityDigest = json.sha256Of data ∧
        row.etag = ⟨json.sha256Of data⟩ ∧
        (KeepsText json data → row.integrityDigest = json.sha256Of row.data)) ∧
      ∀ parent, key.references = some parent →
        ((poolAfter json ext moves).shared.rows parent).isSome = true := by
  have referential := referential_run PgCall.dialogued PgCall.spares possible
  obtain ⟨history, linearized⟩ := linearized_pool possible
  have written : rowsAfter json ext history key = some row :=
    (congrFun linearized.rows key).symm.trans present
  obtain ⟨past, entry, later, data, split, place, shape⟩ := rowsAfter_source written
  have stepped : Step json ext (rowsAfter json ext past) entry.2 _ _ := rowsAfter_step entry
  rw [place.revision] at stepped
  obtain ⟨writer, alongside, own⟩ := linearized.known entry (by
    rw [split]
    exact List.mem_append_right _ List.mem_cons_self)
  refine ⟨stepped.positive, ⟨data, ⟨writer, List.mem_of_getElem? alongside, ?_⟩, ?_⟩,
    fun parent refers => ?_⟩
  · exact own ▸ place.content
  · rw [shape]
    exact ⟨rfl, rfl, rfl, fun keeps => keeps.digest.symm⟩
  · exact referential.rows key parent refers (present ▸ rfl)

/-- One client creates an environment, another writes its first answers. -/
def answering : List (Move (PgCall PlainValue)) :=
  .arrive (.createEnv localFresh) :: turns 0 1 ++
    [.arrive (.upsertPackAnswers localFresh.environmentId .secrets (.doc (.environment renamed))
      none)] ++ turns 1 4

theorem tables_are_consistent_answering :
    ((poolAfter plainPgJson noExternals answering).shared.rows
      (.environment localFresh.environmentId)).isSome = true := by
  have present : (poolAfter plainPgJson noExternals answering).shared.rows
      (.answers localFresh.environmentId CapabilitySlot.secrets.asStr) =
        some (pgRow plainPgJson 1 (.doc (.environment renamed))) := rfl
  exact (tables_are_consistent (by decide) present).2.2 _ rfl

def PgCall.onAnswers (envId : EnvId) (slot : String) : PgCall V → Option (AnswersCall V)
  | upsertPackAnswers env slot' answers precondition =>
    if env = envId ∧ slot'.asStr = slot then some (.upsert answers precondition) else none
  | deletePackAnswers env slot' precondition =>
    if env = envId ∧ slot'.asStr = slot then some (.delete precondition) else none
  | _ => none

theorem upsertPackAnswers_apply {envId : EnvId} {slot : CapabilitySlot} {answers : V}
    {precondition : Option Precondition} (rows : PgKey → Option (PgRow V)) :
    let key := PgKey.answers envId slot.asStr
    let outcome := upsertPackAnswers (pgJson json) envId answers precondition (rows key)
    ((PgCall.upsertPackAnswers envId slot answers precondition).operation json ext).apply rows =
      ((outcome.1.mapError PgFailure.store).map .revision, Function.update rows key outcome.2) := by
  have same : ∀ key row, rows key = row → Function.update rows key row = rows := by
    rintro key row rfl
    exact Function.update_eq_self key rows
  cases found : rows (.answers envId slot.asStr) with
  | none =>
      simp only [PgCall.operation, Operation.apply, found, firstRow, upsertPackAnswers]
      by_cases conditional : precondition.any (·.isConditional) = true
      · rw [if_pos conditional, if_pos conditional, same _ _ found]
        rfl
      · rw [if_neg conditional, if_neg conditional]
        rfl
  | some current =>
      simp only [PgCall.operation, Operation.apply, found, overwrite, compareAndSet,
        checkPrecondition, upsertPackAnswers]
      cases precondition with
      | none =>
          rw [same _ _ found]
          rfl
      | some pc =>
          dsimp only
          cases pc.check current.etag current.generation with
          | error e =>
              rw [same _ _ found]
              rfl
          | ok _ => rfl

theorem deletePackAnswers_apply {envId : EnvId} {slot : CapabilitySlot}
    {precondition : Precondition} (rows : PgKey → Option (PgRow V)) :
    let key := PgKey.answers envId slot.asStr
    let outcome := deletePackAnswers envId precondition (rows key)
    ((PgCall.deletePackAnswers envId slot precondition).operation json ext).apply rows =
      ((outcome.1.mapError PgFailure.store).map fun _ => .deleted,
        Function.update rows key outcome.2) := by
  have same : ∀ key row, rows key = row → Function.update rows key row = rows := by
    rintro key row rfl
    exact Function.update_eq_self key rows
  simp only [PgCall.operation, deletePackAnswers]
  by_cases conditional : ¬ precondition.isConditional = true
  · rw [if_pos conditional, if_pos conditional, same _ _ rfl]
    rfl
  · rw [if_neg conditional, if_neg conditional]
    cases found : rows (.answers envId slot.asStr) with
    | none =>
        simp only [Operation.apply, found]
        rw [same _ _ found]
        rfl
    | some current =>
        simp only [Operation.apply, found, compareAndSet, checkPrecondition]
        cases precondition.check current.etag current.generation with
        | error e =>
            dsimp only
            rw [same _ _ found]
            rfl
        | ok _ => rfl

theorem Step.elsewhere {rows after : PgKey → Option (PgRow V)} {call : PgCall V} {a : PgAnswer V}
    {key : PgKey} (step : Step json ext rows call a after)
    (unwritten : ∀ data, call.content json ext ≠ some (key, data))
    (undeleted : ∀ envId slot pc, call = .deletePackAnswers envId slot pc →
      key ≠ .answers envId slot.asStr) : after key = rows key := by
  cases step with
  | silent => rfl
  | @created call written data content absent free =>
      refine Function.update_of_ne (fun same => ?_) _ _
      exact unwritten data (same ▸ content)
  | @overwritten call written data current pc content present pinned passed =>
      refine Function.update_of_ne (fun same => ?_) _ _
      exact unwritten data (same ▸ content)
  | deleted present passed => exact Function.update_of_ne (undeleted _ _ _ rfl) _ _

theorem apply_onAnswers (call : PgCall V) (envId : EnvId) (slot : String)
    (rows : PgKey → Option (PgRow V)) :
    ((call.operation json ext).apply rows).2 (.answers envId slot) =
      ((call.onAnswers envId slot).toList.foldl
        (fun row call => call.after (pgJson json) envId row) (rows (.answers envId slot))) := by
  cases call with
  | upsertPackAnswers env slot' answers precondition =>
      rw [upsertPackAnswers_apply]
      by_cases own : env = envId ∧ slot'.asStr = slot
      · obtain ⟨rfl, rfl⟩ := own
        rw [PgCall.onAnswers, if_pos ⟨rfl, rfl⟩]
        exact Function.update_self _ _ _
      · rw [PgCall.onAnswers, if_neg own]
        refine Function.update_of_ne (fun same => own ?_) _ _
        cases same
        exact ⟨rfl, rfl⟩
  | deletePackAnswers env slot' precondition =>
      rw [deletePackAnswers_apply]
      by_cases own : env = envId ∧ slot'.asStr = slot
      · obtain ⟨rfl, rfl⟩ := own
        rw [PgCall.onAnswers, if_pos ⟨rfl, rfl⟩]
        exact Function.update_self _ _ _
      · rw [PgCall.onAnswers, if_neg own]
        refine Function.update_of_ne (fun same => own ?_) _ _
        cases same
        exact ⟨rfl, rfl⟩
  | createEnv env =>
      refine ((PgCall.createEnv env).steps rows).elsewhere (fun data content => ?_)
        fun _ _ _ same => by cases same
      obtain ⟨_, _, same⟩ := Option.map_eq_some_iff.mp content
      cases same
  | updateEnv env precondition =>
      refine ((PgCall.updateEnv env precondition).steps rows).elsewhere (fun data content => ?_)
        fun _ _ _ same => by cases same
      obtain ⟨_, _, same⟩ := Option.map_eq_some_iff.mp content
      cases same
  | upsertRuntime runtime precondition =>
      refine ((PgCall.upsertRuntime runtime precondition).steps rows).elsewhere
        (fun data content => ?_) fun _ _ _ same => by cases same
      obtain ⟨_, _, same⟩ := Option.map_eq_some_iff.mp content
      cases same
  | _ => rfl

theorem answers_rowsAfter (history : History V) (envId : EnvId) (slot : String) :
    rowsAfter json ext history (.answers envId slot) =
      run (pgJson json) envId none
        (history.filterMap fun entry => entry.2.onAnswers envId slot) := by
  induction history using List.reverseRecOn with
  | nil => rfl
  | append_singleton rest entry ih =>
      have applied := @apply_onAnswers V json ext entry.2 envId slot (rowsAfter json ext rest)
      rw [rowsAfter, oneByOne_snoc, List.filterMap_append]
      refine applied.trans ?_
      rw [ih, run, run, List.foldl_append]
      cases on : entry.2.onAnswers envId slot <;>
        simp only [List.filterMap_cons, List.filterMap_nil, on, Option.toList, List.foldl_cons,
          List.foldl_nil]

/-- The answers of a slot go through serialised transactions alone: whoever else is at the
database, the row is what the calls on it, in the order of the run, leave one after
another. -/
theorem answers_rows_run_alone {moves : List (Move (PgCall V))}
    (possible : Possible json ext moves) :
    ∃ history, Linearized (PgCall.operation json ext) (poolAfter json ext moves) history ∧
      ∀ envId slot, (poolAfter json ext moves).shared.rows (.answers envId slot) =
        run (pgJson json) envId none
          (history.filterMap fun entry => entry.2.onAnswers envId slot) := by
  obtain ⟨history, linearized⟩ := linearized_pool possible
  refine ⟨history, linearized, fun envId slot => ?_⟩
  exact (congrFun linearized.rows _).trans (answers_rowsAfter history envId slot)

theorem answers_rows_run_alone_answering :
    ∃ history, Linearized (PgCall.operation plainPgJson noExternals)
        (poolAfter plainPgJson noExternals answering) history ∧
      ∀ envId slot, (poolAfter plainPgJson noExternals answering).shared.rows (.answers envId slot) =
        run (pgJson plainPgJson) envId none
          (history.filterMap fun entry => entry.2.onAnswers envId slot) :=
  answers_rows_run_alone (by decide)

end GreenticDeployer.Store.Postgres
