import GreenticDeployer.Engine.Routing
import GreenticDeployer.Store.Effects
import GreenticDeployer.Store.PlainJson

/-!
# Generations of sidecar rows

A row a client may pin must never come back at a generation it had before. Pack
answers keep a tombstone for that; the runtime table has none, so a restore that
deletes a row is the one way its count can start over.
-/

set_option maxHeartbeats 200000

namespace GreenticDeployer.Store

open Spec Engine Lib

/-- One write of a row, by its generation: none, the first, or the next. -/
def RowStep {ρ : Type} (generation : ρ → Nat) (before after : Option ρ) : Prop :=
  after = before ∨ (before = none ∧ ∃ new, after = some new ∧ generation new = 1) ∨
    ∃ old new, before = some old ∧ after = some new ∧ generation new = generation old + 1

/-- Any number of writes: a row that was there still is, unchanged or at a
higher generation. -/
def RowGrows {ρ : Type} (generation : ρ → Nat) (before after : Option ρ) : Prop :=
  ∀ old, before = some old →
    ∃ new, after = some new ∧ (new = old ∨ generation old < generation new)

section Rows

variable {ρ : Type} {generation : ρ → Nat}

theorem RowStep.refl (row : Option ρ) : RowStep generation row row := .inl rfl

theorem RowStep.first {row : ρ} (one : generation row = 1) :
    RowStep generation none (some row) :=
  .inr (.inl ⟨rfl, row, rfl, one⟩)

theorem RowStep.next {old new : ρ} (succ : generation new = generation old + 1) :
    RowStep generation (some old) (some new) :=
  .inr (.inr ⟨old, new, rfl, rfl, succ⟩)

theorem RowStep.grows {before after : Option ρ} (step : RowStep generation before after) :
    RowGrows generation before after := by
  intro old present
  rcases step with rfl | ⟨absent, _⟩ | ⟨row, new, current, rfl, succ⟩
  · exact ⟨old, present, .inl rfl⟩
  · rw [absent] at present
    cases present
  · rw [current] at present
    cases present
    exact ⟨new, rfl, .inr (by omega)⟩

theorem RowStep.present {before after : Option ρ} (step : RowStep generation before after)
    (present : before ≠ none) : after ≠ none := by
  obtain ⟨row, found⟩ := Option.ne_none_iff_exists'.mp present
  obtain ⟨new, still, _⟩ := step.grows row found
  rw [still]
  exact Option.some_ne_none new

theorem RowGrows.trans {a b c : Option ρ} (first : RowGrows generation a b)
    (second : RowGrows generation b c) : RowGrows generation a c := by
  intro old present
  obtain ⟨middle, there, low⟩ := first old present
  obtain ⟨new, last, high⟩ := second middle there
  refine ⟨new, last, ?_⟩
  rcases low with rfl | low
  · exact high
  · rcases high with rfl | high
    · exact .inr low
    · exact .inr (low.trans high)

end Rows

theorem rowStep_insert {κ ρ : Type} [DecidableEq κ] {generation : ρ → Nat} {table : Table κ ρ}
    {key : κ} {row : ρ} (written : RowStep generation (table.lookup key) (some row)) (other : κ) :
    RowStep generation (table.lookup other) ((table.insert key row).lookup other) := by
  by_cases same : other = key
  · subst same
    rw [AList.lookup_insert]
    exact written
  · rw [AList.lookup_insert_ne same]
    exact .refl _

variable {V B : Type} {json : StoreJson V} {ext : Externals}

abbrev AnswersTable (V : Type) := Table (EnvId × String) (AnswersRow V)

def answersGeneration (row : AnswersRow V) : Nat := row.generation

def AnswersStep (before after : AnswersTable V) : Prop :=
  ∀ key, RowStep answersGeneration (before.lookup key) (after.lookup key)

theorem answersUpsertGeneration_step {current : Option (AnswersRow V)} {envId : EnvId}
    {precondition : Option Precondition} {insertable : Except StorageError Unit}
    {generation : Nat} {row : AnswersRow V}
    (cas : answersUpsertGeneration current envId precondition insertable = .ok generation)
    (written : row.generation = generation) :
    RowStep answersGeneration current (some row) := by
  cases current with
  | none =>
      simp only [answersUpsertGeneration] at cas
      split at cas
      · cases cas
      · cases insertable with
        | error e => cases cas
        | ok _ =>
            cases cas
            exact .first written
  | some old =>
      have next : nextGeneration old.generation = .ok generation := by
        simp only [answersUpsertGeneration] at cas
        split at cas
        · split at cas
          · cases cas
          · exact cas
        · split at cas
          · cases cas
          · obtain ⟨_, _, next⟩ := bind_ok cas
            exact next
      exact .next (by rw [answersGeneration, written, nextGeneration_ok next]; rfl)

/-- A write whose generation is taken from the table as it was keeps the step
from that table, whatever else has been written since. -/
theorem answersStep_insert {existing answers : AnswersTable V} {key : EnvId × String}
    {row : AnswersRow V} (step : AnswersStep existing answers)
    (written : RowStep answersGeneration (existing.lookup key) (some row)) :
    AnswersStep existing (answers.insert key row) := by
  intro other
  by_cases same : other = key
  · subst same
    rw [AList.lookup_insert]
    exact written
  · rw [AList.lookup_insert_ne same]
    exact step other

theorem restoreAnswers_step {db : Db V B} {envId : EnvId} {answers : AnswersTable V}
    {captured : BTreeMap V} (returned : restoreAnswers json db envId captured = .ok answers) :
    AnswersStep db.packAnswers answers := by
  unfold restoreAnswers at returned
  obtain ⟨middle, rewritten, returned⟩ := bind_ok returned
  have first : AnswersStep db.packAnswers middle := by
    refine foldlM_invariant (AnswersStep db.packAnswers) _ ?_ rewritten fun key => .refl _
    intro entry _ state next stepped held
    simp only [restoreCapturedAnswers] at stepped
    split at stepped
    · rename_i row current
      obtain ⟨generation, bumped, stepped⟩ := bind_ok stepped
      cases stepped
      refine answersStep_insert held ?_
      rw [current, nextGeneration_ok bumped]
      exact .next rfl
    · rename_i absent
      obtain ⟨_, _, stepped⟩ := bind_ok stepped
      cases stepped
      refine answersStep_insert held ?_
      rw [absent]
      exact .first rfl
  refine foldlM_invariant (AnswersStep db.packAnswers) _ ?_ returned first
  intro entry member state next stepped held
  simp only [restoreMissingAnswers] at stepped
  split at stepped
  · obtain ⟨generation, bumped, stepped⟩ := bind_ok stepped
    cases stepped
    have current : db.packAnswers.lookup entry.1 = some entry.2 :=
      AList.mem_lookup_iff.mpr member
    refine answersStep_insert held ?_
    rw [current, nextGeneration_ok bumped]
    exact .next rfl
  · cases stepped
    exact held

theorem importAnswers_step {envId : EnvId} {existing answers : AnswersTable V}
    {entries : List (String × V)}
    (returned : entries.foldlM (fun answers entry =>
      importAnswersRow json envId answers entry.1 entry.2) existing = .ok answers) :
    AnswersStep existing answers := by
  refine foldlM_invariant (AnswersStep existing) _ ?_ returned fun key => .refl _
  intro entry _ state next stepped held
  simp only [importAnswersRow] at stepped
  split at stepped
  · cases stepped
  · rename_i fresh
    cases stepped
    refine answersStep_insert held ?_
    have step := held (envId, entry.1)
    rw [AList.lookup_eq_none.mpr fresh] at step
    rcases step with same | ⟨_, _, impossible, _⟩ | ⟨_, _, _, impossible, _⟩
    · rw [← same]
      exact .first rfl
    · cases impossible
    · cases impossible

theorem writes_answers {input : StoreInput} {db mid : Db V B} {call : StorageCall V B}
    {journal : Option (MutationJournal V B)} (writes : Writes json ext input db call mid journal) :
    AnswersStep db.packAnswers mid.packAnswers := by
  cases writes with
  | answers cas => exact rowStep_insert (answersUpsertGeneration_step cas rfl)
  | deleteLive current live pinned =>
      refine rowStep_insert ?_
      rw [current]
      exact .next rfl
  | restore decoded encoded current pinned runtime restored =>
      have step := restoreAnswers_step restored
      exact step
  | importEnv decoded named encoded absent runtime imported history =>
      exact importAnswers_step imported
  | _ => exact fun key => .refl _

/-- The step lemma: one call moves every answers row at most one generation up
and takes none away. -/
theorem execute_answers (input : StoreInput) (db : Db V B) (call : StorageCall V B) :
    AnswersStep db.packAnswers (execute json ext input db call).2.packAnswers := by
  rcases execute_writes json ext input db call with ⟨_, _, same⟩ | ⟨mid, journal, writes, wrote⟩
  · rw [same]
    exact fun key => .refl _
  · rw [(journal?_sameTables wrote).packAnswers]
    exact writes_answers writes

theorem run_answers (json : StoreJson V) (ext : Externals) (db : Db V B)
    (actions : List (StoreInput × StorageCall V B)) (key : EnvId × String) :
    RowGrows answersGeneration (db.packAnswers.lookup key)
      (((store json ext).run db actions).packAnswers.lookup key) := by
  refine (store json ext).run_invariant (fun state => RowGrows answersGeneration
    (db.packAnswers.lookup key) (state.packAnswers.lookup key)) ?_ db actions
    ((store json ext).admits_of_allowed (fun _ _ => trivial) _ _) (RowStep.refl _).grows
  intro state action _ grown
  exact grown.trans (execute_answers action.1 state action.2 key).grows

theorem execute_error {input : StoreInput} {db : Db V B} {call : StorageCall V B}
    {e : StorageError} (refused : transaction json ext input db call = .error e) :
    execute json ext input db call = (.error e, db) := by
  unfold execute
  rw [refused]

theorem checkPrecondition_stale (envId : EnvId) {precondition : Precondition}
    {revision : EnvRevision} {generation : Nat}
    (pinned : precondition.expectedGeneration = some generation)
    (moved : revision.generation ≠ generation) :
    ∃ e, checkPrecondition envId precondition revision = .error e := by
  cases checked : checkPrecondition envId precondition revision with
  | error e => exact ⟨e, rfl⟩
  | ok u =>
      obtain ⟨_, _, generations⟩ := Precondition.check_ok (checkPrecondition_ok checked)
      exact absurd (generations generation pinned).symm moved

theorem isConditional_of_generation {precondition : Precondition} {generation : Nat}
    (pinned : precondition.expectedGeneration = some generation) :
    precondition.isConditional = true := by
  simp [Precondition.isConditional, pinned]

theorem upsertPackAnswers_stale {input : StoreInput} {db : Db V B} {envId : EnvId}
    {slot : CapabilitySlot} {answers : V} {precondition : Precondition} {row : AnswersRow V}
    {generation : Nat} (current : db.packAnswers.lookup (envId, slot.asStr) = some row)
    (pinned : precondition.expectedGeneration = some generation)
    (moved : row.generation ≠ generation) :
    ∃ e, execute json ext input db (.upsertPackAnswers envId slot answers (some precondition)) =
      (.error e, db) := by
  cases deleted : row.deleted with
  | true =>
      refine ⟨.notFound envId, execute_error ?_⟩
      simp only [transaction, upsertPackAnswers, answersUpsertGeneration, current, deleted,
        Option.any_some, isConditional_of_generation pinned, if_true]
      rfl
  | false =>
      obtain ⟨e, stale⟩ : ∃ e, checkPrecondition envId precondition row.revision = .error e :=
        checkPrecondition_stale envId pinned moved
      refine ⟨e, execute_error ?_⟩
      simp only [transaction, upsertPackAnswers, answersUpsertGeneration, current, deleted,
        Bool.false_eq_true, if_false, stale]
      rfl

theorem deletePackAnswers_gone {input : StoreInput} {db : Db V B} {envId : EnvId}
    {slot : CapabilitySlot} {precondition : Precondition} {row : AnswersRow V}
    (current : db.packAnswers.lookup (envId, slot.asStr) = some row) (gone : row.deleted = true)
    (conditional : precondition.isConditional = true) :
    execute json ext input db (.deletePackAnswers envId slot precondition) = (.ok (), db) := by
  simp only [execute, transaction, deletePackAnswers, conditional, current, gone, not_true_eq_false,
    if_false, if_true]

theorem deletePackAnswers_stale {input : StoreInput} {db : Db V B} {envId : EnvId}
    {slot : CapabilitySlot} {precondition : Precondition} {row : AnswersRow V} {generation : Nat}
    (current : db.packAnswers.lookup (envId, slot.asStr) = some row) (live : row.deleted = false)
    (pinned : precondition.expectedGeneration = some generation)
    (moved : row.generation ≠ generation) :
    ∃ e, execute json ext input db (.deletePackAnswers envId slot precondition) =
      (.error e, db) := by
  obtain ⟨e, stale⟩ : ∃ e, checkPrecondition envId precondition row.revision = .error e :=
    checkPrecondition_stale envId pinned moved
  refine ⟨e, execute_error ?_⟩
  simp only [transaction, deletePackAnswers, isConditional_of_generation pinned, current, live,
    not_true_eq_false, Bool.false_eq_true, if_false, stale]
  rfl

theorem upsertPackAnswers_tombstone {input : StoreInput} {db : Db V B} {envId : EnvId}
    {slot : CapabilitySlot} {answers : V} {precondition : Precondition} {row : AnswersRow V}
    (current : db.packAnswers.lookup (envId, slot.asStr) = some row) (gone : row.deleted = true)
    (conditional : precondition.isConditional = true) :
    execute json ext input db (.upsertPackAnswers envId slot answers (some precondition)) =
      (.error (.notFound envId), db) := by
  refine execute_error ?_
  simp only [transaction, upsertPackAnswers, answersUpsertGeneration, current, gone,
    Option.any_some, conditional, if_true]
  rfl

/-- Pack answers never return to a generation. In every run of the store each
write moves a row's generation up by one and no row is lost; an upsert pinned to
a generation the row has left fails, a delete so pinned fails or finds the row
already deleted and writes nothing; and a tombstone meets no conditional upsert. -/
theorem pack_answers_aba_free (json : StoreJson V) (ext : Externals) (db : Db V B)
    (actions : List (StoreInput × StorageCall V B)) (envId : EnvId) :
    (∀ slot : String, ((store json ext).states db actions).IsChain fun before after =>
      RowStep answersGeneration (before.packAnswers.lookup (envId, slot))
        (after.packAnswers.lookup (envId, slot))) ∧
    (∀ past later, actions = past ++ later → ∀ (slot : CapabilitySlot) old new,
      ((store json ext).run db past).packAnswers.lookup (envId, slot.asStr) = some old →
      ((store json ext).run db actions).packAnswers.lookup (envId, slot.asStr) = some new →
      new ≠ old → ∀ precondition, precondition.expectedGeneration = some old.generation →
      ∀ input answers,
        (∃ e, execute json ext input ((store json ext).run db actions)
          (.upsertPackAnswers envId slot answers (some precondition)) =
            (.error e, (store json ext).run db actions)) ∧
        ((∃ e, execute json ext input ((store json ext).run db actions)
          (.deletePackAnswers envId slot precondition) =
            (.error e, (store json ext).run db actions)) ∨
          new.deleted = true ∧ execute json ext input ((store json ext).run db actions)
            (.deletePackAnswers envId slot precondition) =
              (.ok (), (store json ext).run db actions))) ∧
    ∀ (slot : CapabilitySlot) row,
      ((store json ext).run db actions).packAnswers.lookup (envId, slot.asStr) = some row →
      row.deleted = true → ∀ precondition, precondition.isConditional = true →
      ∀ input answers, execute json ext input ((store json ext).run db actions)
        (.upsertPackAnswers envId slot answers (some precondition)) =
          (.error (.notFound envId), (store json ext).run db actions) := by
  refine ⟨?_, ?_, ?_⟩
  · intro slot
    exact (store json ext).chain (fun _ => True) _ (fun _ _ _ _ => trivial)
      (fun state action _ _ => execute_answers action.1 state action.2 (envId, slot)) db actions
      ((store json ext).admits_of_allowed (fun _ _ => trivial) _ _) trivial
  · rintro past later rfl slot old new before after changed precondition pinned input answers
    have grown := run_answers json ext ((store json ext).run db past) later (envId, slot.asStr)
    rw [← System.run_append] at grown
    obtain ⟨row, found, moved⟩ := grown old before
    rw [after] at found
    cases found
    have left : new.generation ≠ old.generation :=
      Nat.ne_of_gt (moved.resolve_left changed)
    refine ⟨upsertPackAnswers_stale after pinned left, ?_⟩
    cases live : new.deleted with
    | true =>
        exact .inr ⟨rfl, deletePackAnswers_gone after live (isConditional_of_generation pinned)⟩
    | false => exact .inl (deletePackAnswers_stale after live pinned left)
  · intro slot row current gone precondition conditional input answers
    exact upsertPackAnswers_tombstone current gone conditional

def uncapped (calls : List (StorageCall PlainValue Unit)) :
    List (StoreInput × StorageCall PlainValue Unit) :=
  calls.map fun call => (⟨none, "2026-01-01 00:00:00"⟩, call)

def writtenThenDeleted : List (StorageCall PlainValue Unit) :=
  [.createEnv localFresh none,
    .upsertPackAnswers ⟨"local"⟩ .secrets (.doc (.environment localFresh)) none,
    .deletePackAnswers ⟨"local"⟩ .secrets ⟨none, some 1⟩]

/-- The same pin, stale since the delete, is answered with success. -/
theorem stale_delete_succeeds :
    ((((store plainJson noExternals).run Db.empty (uncapped (writtenThenDeleted.take 2))).packAnswers.lookup
      (⟨"local"⟩, "secrets")).map fun row => (row.generation, row.deleted)) = some (1, false) ∧
    ((((store plainJson noExternals).run Db.empty (uncapped writtenThenDeleted)).packAnswers.lookup
      (⟨"local"⟩, "secrets")).map fun row => (row.generation, row.deleted)) = some (2, true) ∧
    (execute plainJson noExternals ⟨none, "2026-01-01 00:00:00"⟩
      ((store plainJson noExternals).run Db.empty (uncapped writtenThenDeleted))
      (.deletePackAnswers ⟨"local"⟩ .secrets ⟨none, some 1⟩)).1 = .ok () := by
  refine ⟨by decide, by decide, ?_⟩
  rfl

def RuntimeStep (before after : Table EnvId (DocRow V)) : Prop :=
  ∀ envId, RowStep DocRow.generation (before.lookup envId) (after.lookup envId)

theorem casUpsert_step {current : Option (DocRow V)} {envId : EnvId}
    {precondition : Option Precondition} {insertable : Except StorageError Unit}
    {generation : Nat} {row : DocRow V}
    (cas : casUpsert current envId precondition insertable = .ok generation)
    (written : row.generation = generation) : RowStep DocRow.generation current (some row) := by
  cases current with
  | none =>
      simp only [casUpsert] at cas
      split at cas
      · cases cas
      · cases insertable with
        | error e => cases cas
        | ok _ =>
            cases cas
            exact .first written
  | some old =>
      simp only [casUpsert] at cas
      split at cas
      · cases cas
      · obtain ⟨_, _, next⟩ := bind_ok cas
        exact .next (by rw [written, nextGeneration_ok next])

/-- The restore that loses a count: it brings no runtime to an environment that
has one. -/
def RuntimeKept (db : Db V B) (action : StoreInput × StorageCall V B) : Prop :=
  match action.2 with
  | .restoreEnv envId snapshot _ _ =>
    snapshot.runtime = none → db.environmentRuntimes.lookup envId = none
  | _ => True

theorem restoreRuntime_step {db : Db V B} {envId : EnvId} {runtime : Option V}
    {runtimes : Table EnvId (DocRow V)}
    (returned : restoreRuntime json db envId runtime = .ok runtimes)
    (kept : runtime = none → db.environmentRuntimes.lookup envId = none) :
    RuntimeStep db.environmentRuntimes runtimes := by
  cases runtime with
  | none =>
      cases returned
      intro other
      by_cases same : other = envId
      · subst same
        rw [AList.lookup_erase, kept rfl]
        exact .refl _
      · rw [AList.lookup_erase_ne same]
        exact .refl _
  | some data =>
      obtain ⟨generation, chosen, returned⟩ := bind_ok returned
      cases returned
      refine rowStep_insert ?_
      unfold restoredRuntimeGeneration at chosen
      split at chosen
      · rename_i row current
        rw [current, nextGeneration_ok chosen]
        exact .next rfl
      · rename_i absent
        rw [absent]
        cases required : requireEnv db envId with
        | error e =>
            rw [required] at chosen
            cases chosen
        | ok _ =>
            rw [required] at chosen
            cases chosen
            exact .first rfl

theorem importRuntime_step {db : Db V B} {envId : EnvId} {runtime : Option V}
    {runtimes : Table EnvId (DocRow V)}
    (returned : importRuntime json db envId runtime = .ok runtimes) :
    RuntimeStep db.environmentRuntimes runtimes := by
  cases runtime with
  | none =>
      cases returned
      exact fun _ => .refl _
  | some data =>
      simp only [importRuntime] at returned
      split at returned
      · cases returned
      · rename_i fresh
        cases returned
        refine rowStep_insert ?_
        rw [AList.lookup_eq_none.mpr fresh]
        exact .first rfl

/-- The step lemma for runtimes, under the one condition it needs. -/
theorem execute_runtimes (db : Db V B) (action : StoreInput × StorageCall V B)
    (kept : RuntimeKept db action) :
    RuntimeStep db.environmentRuntimes
      (execute json ext action.1 db action.2).2.environmentRuntimes := by
  obtain ⟨input, call⟩ := action
  rcases execute_writes json ext input db call with ⟨_, _, same⟩ | ⟨mid, journal, writes, wrote⟩
  · rw [same]
    exact fun _ => .refl _
  · rw [(journal?_sameTables wrote).environmentRuntimes]
    cases writes with
    | runtime encoded cas => exact rowStep_insert (casUpsert_step cas rfl)
    | restore decoded encoded current pinned runtime restored =>
        have step := restoreRuntime_step runtime kept
        exact step
    | importEnv decoded named encoded absent runtime imported history =>
        have step := importRuntime_step runtime
        exact step
    | _ => exact fun _ => .refl _

/-- Runs of the store in which every restore without a runtime meets none. -/
def keptStore (json : StoreJson V) (ext : Externals) :
    System (Db V B) (StoreInput × StorageCall V B) where
  step := (store json ext).step
  allowed := RuntimeKept

theorem run_runtimes (json : StoreJson V) (ext : Externals) (db : Db V B)
    (actions : List (StoreInput × StorageCall V B))
    (admits : (keptStore json ext).Admits db actions) (envId : EnvId) :
    RowGrows DocRow.generation (db.environmentRuntimes.lookup envId)
      (((keptStore json ext).run db actions).environmentRuntimes.lookup envId) := by
  refine (keptStore json ext).run_invariant (fun state => RowGrows DocRow.generation
    (db.environmentRuntimes.lookup envId) (state.environmentRuntimes.lookup envId)) ?_ db actions
    admits (RowStep.refl _).grows
  intro state action kept grown
  exact grown.trans (execute_runtimes state action kept envId).grows

theorem upsertRuntime_stale {input : StoreInput} {db : Db V B} {runtime : EnvironmentRuntime}
    {precondition : Precondition} {row : DocRow V} {generation : Nat}
    (current : db.environmentRuntimes.lookup runtime.environmentId = some row)
    (pinned : precondition.expectedGeneration = some generation)
    (moved : row.generation ≠ generation) :
    ∃ e, execute json ext input db (.upsertRuntime runtime (some precondition)) =
      (.error e, db) := by
  obtain ⟨stale, refused⟩ :
      ∃ e, checkPrecondition runtime.environmentId precondition row.revision = .error e :=
    checkPrecondition_stale runtime.environmentId pinned moved
  cases outcome : transaction json ext input db (.upsertRuntime runtime (some precondition)) with
  | error e => exact ⟨e, execute_error outcome⟩
  | ok committed =>
      simp only [transaction, upsertRuntime] at outcome
      obtain ⟨_, _, outcome⟩ := bind_ok outcome
      obtain ⟨_, _, outcome⟩ := bind_ok outcome
      obtain ⟨_, cas, _⟩ := bind_ok outcome
      simp only [casUpsert, current, refused] at cas
      cases cas

/-- Where no restore deletes a runtime row, runtime rows never return to a
generation: each write moves it up by one, and a write pinned to a generation
observed before another write fails after it. -/
theorem runtime_aba_free (json : StoreJson V) (ext : Externals) (db : Db V B)
    (actions : List (StoreInput × StorageCall V B))
    (admits : (keptStore json ext).Admits db actions) :
    (∀ envId, ((keptStore json ext).states db actions).IsChain fun before after =>
      RowStep DocRow.generation (before.environmentRuntimes.lookup envId)
        (after.environmentRuntimes.lookup envId)) ∧
    ∀ past later, actions = past ++ later → ∀ (runtime : EnvironmentRuntime) old new,
      ((keptStore json ext).run db past).environmentRuntimes.lookup runtime.environmentId =
        some old →
      ((keptStore json ext).run db actions).environmentRuntimes.lookup runtime.environmentId =
        some new →
      new ≠ old → ∀ precondition, precondition.expectedGeneration = some old.generation →
      ∀ input, ∃ e, execute json ext input ((keptStore json ext).run db actions)
        (.upsertRuntime runtime (some precondition)) =
          (.error e, (keptStore json ext).run db actions) := by
  refine ⟨?_, ?_⟩
  · intro envId
    exact (keptStore json ext).chain (fun _ => True) _ (fun _ _ _ _ => trivial)
      (fun state action kept _ => execute_runtimes state action kept envId) db actions admits
      trivial
  · rintro past later rfl runtime old new before after changed precondition pinned input
    have grown := run_runtimes json ext ((keptStore json ext).run db past) later
      ((keptStore json ext).admits_append _ _ _ |>.mp admits).2 runtime.environmentId
    rw [← System.run_append] at grown
    obtain ⟨row, found, moved⟩ := grown old before
    rw [after] at found
    cases found
    exact upsertRuntime_stale after pinned (Nat.ne_of_gt (moved.resolve_left changed))

def demoRuntime (generation : UInt64) : EnvironmentRuntime :=
  ⟨⟨SchemaVersion.environmentRuntimeV1⟩, ⟨"local"⟩, BTreeMap.empty, 0, ⟨"aws", "1"⟩, generation⟩

def runtimeRow (generation : Nat) (runtime : EnvironmentRuntime) : DocRow PlainValue :=
  docRow plainJson (.doc (.runtime runtime)) generation

def freshSnapshot (runtime : Option EnvironmentRuntime) : EnvSnapshot PlainValue :=
  ⟨.doc (.environment localFresh), runtime.map fun r => .doc (.runtime r), BTreeMap.empty, [], none⟩

def restoredBetween (backup : Option EnvironmentRuntime) (last : Option Precondition) :
    List (StorageCall PlainValue Unit) :=
  [.createEnv localFresh none, .upsertRuntime (demoRuntime 1) none,
    .restoreEnv ⟨"local"⟩ (freshSnapshot backup) ⟨none, some 1⟩ none,
    .upsertRuntime (demoRuntime 2) last]

theorem runtime_aba_free_of_restoredBetween :
    (keptStore plainJson noExternals).Admits Db.empty
      (uncapped (restoredBetween (some (demoRuntime 1)) (some ⟨none, some 2⟩))) ∧
    ∃ e, execute plainJson noExternals ⟨none, "2026-01-01 00:00:00"⟩
      ((keptStore plainJson noExternals).run Db.empty
        (uncapped (restoredBetween (some (demoRuntime 1)) (some ⟨none, some 2⟩))))
      (.upsertRuntime (demoRuntime 3) (some ⟨none, some 1⟩)) =
        (.error e, (keptStore plainJson noExternals).run Db.empty
          (uncapped (restoredBetween (some (demoRuntime 1)) (some ⟨none, some 2⟩)))) := by
  have admits : (keptStore plainJson noExternals).Admits Db.empty
      (uncapped (restoredBetween (some (demoRuntime 1)) (some ⟨none, some 2⟩))) :=
    ⟨trivial, trivial, nofun, trivial, trivial⟩
  refine ⟨admits, (runtime_aba_free plainJson noExternals Db.empty _ admits).2
    (uncapped ((restoredBetween (some (demoRuntime 1)) (some ⟨none, some 2⟩)).take 2))
    (uncapped ((restoredBetween (some (demoRuntime 1)) (some ⟨none, some 2⟩)).drop 2)) rfl
    (demoRuntime 3) (runtimeRow 1 (demoRuntime 1)) (runtimeRow 3 (demoRuntime 2)) rfl rfl ?_
    ⟨none, some 1⟩ rfl ⟨none, "2026-01-01 00:00:00"⟩⟩
  intro same
  exact absurd (congrArg DocRow.generation same) (by decide)

/-- A backup without a runtime starts the count over: the write pinned to the
first runtime's generation overwrites the one that replaced it. -/
theorem restore_restarts_runtime_generation :
    ((store plainJson noExternals).run Db.empty
      (uncapped ((restoredBetween none none).take 2))).environmentRuntimes.lookup ⟨"local"⟩ =
        some (runtimeRow 1 (demoRuntime 1)) ∧
    ((store plainJson noExternals).run Db.empty
      (uncapped (restoredBetween none none))).environmentRuntimes.lookup ⟨"local"⟩ =
        some (runtimeRow 1 (demoRuntime 2)) ∧
    (execute plainJson noExternals ⟨none, "2026-01-01 00:00:00"⟩
      ((store plainJson noExternals).run Db.empty (uncapped (restoredBetween none none)))
      (.upsertRuntime (demoRuntime 3) (some ⟨none, some 1⟩))).1 =
        .ok (runtimeRow 2 (demoRuntime 3)).revision :=
  ⟨rfl, rfl, rfl⟩

end GreenticDeployer.Store
