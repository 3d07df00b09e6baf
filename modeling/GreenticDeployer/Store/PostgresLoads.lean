import GreenticDeployer.Store.PostgresRuns

/-!
# What the Postgres store loads

Every row was written whole by one client. So a load finds nothing, or shows what some
client wrote under the revision that client was told, unless the column prints the value
another way than it was written.
-/

set_option maxHeartbeats 200000

namespace GreenticDeployer.Store.Postgres

open Spec Engine Lib Lib.Rows

variable {V : Type} (json : PgStoreJson V) (ext : Externals)

def PgCall.loads : PgCall V → Option PgKey
  | loadEnv envId => some (.environment envId)
  | loadRuntime envId => some (.runtime envId)
  | loadPackAnswers envId slot => some (.answers envId slot.asStr)
  | _ => none

/-- The answer of a load that finds no row. -/
def ifAbsent : PgKey → PgAnswer V
  | .environment envId => .error (.store (.notFound envId))
  | .runtime _ => .ok (.runtime none)
  | .answers _ _ => .ok (.answers none)

def Shows (revision : EnvRevision) (data : V) : PgReply V → Prop
  | .env loaded =>
    json.environment.toValue loaded.value = .ok data ∧ loaded.revision = revision
  | .runtime (some loaded) =>
    json.runtime.toValue loaded.value = .ok data ∧ loaded.revision = revision
  | .answers (some loaded) => loaded.value = json.column data ∧ loaded.revision = revision
  | _ => False

/-- The column gives the value back with its canonical text, and so with the documents that
are read from it. -/
structure KeepsText (data : V) : Prop where
  digest : json.sha256Of (json.column data) = json.sha256Of data
  environment : json.environment.fromValue (json.column data) = json.environment.fromValue data
  runtime : json.runtime.fromValue (json.column data) = json.runtime.fromValue data

/-- What a load answers where a value was written: it shows a value that keeps its text, and
refuses answers that do not. -/
structure Reads (key : PgKey) (data : V) (revision : EnvRevision) (answer : PgAnswer V) :
    Prop where
  kept : KeepsText json data → ∃ reply, answer = .ok reply ∧ Shows json revision data reply
  reprinted : ∀ envId slot, key = .answers envId slot →
    json.sha256Of (json.column data) ≠ json.sha256Of data →
    answer = .error
      (.integrityMismatch envId (json.sha256Of data) (json.sha256Of (json.column data)))

section Documents

variable {json : PgStoreJson V} {ext : Externals}

theorem liftSpecError_ok {outcome : Except SpecError Unit} {u : Unit}
    (passed : liftSpecError outcome = .ok u) : outcome = .ok () := by
  cases outcome with
  | error e => cases passed
  | ok u => rfl

theorem serializeForWrite_ok {α : Type} {codec : JsonCodec V α} {value : α} {data : V}
    (serialized : serializeForWrite json codec value = .ok data) :
    codec.toValue value = .ok data := by
  obtain ⟨digest, _, serialized⟩ := bind_ok serialized
  cases encoded : codec.toValue value with
  | error detail =>
      rw [encoded] at serialized
      cases serialized
  | ok written =>
      rw [encoded] at serialized
      cases serialized
      rfl

/-- An environment that passed its checks, and its value. -/
structure Serialized (env : Environment) (data : V) : Prop where
  valid : env.validate ext = .ok ()
  encoded : json.environment.toValue env = .ok data

theorem serialized_of_validated {env : Environment} {data : V} {u : Unit}
    (validated : validateEnvironment ext env = .ok u)
    (written : serializeForWrite json json.environment env = .ok data) :
    @Serialized V json ext env data := by
  obtain ⟨_, _, valid⟩ := bind_ok validated
  exact ⟨liftSpecError_ok valid, serializeForWrite_ok written⟩

theorem serialized_of_content {call : PgCall V} {envId : EnvId} {data : V}
    (content : call.content json ext = some (.environment envId, data)) :
    ∃ env : Environment, env.environmentId = envId ∧ @Serialized V json ext env data := by
  cases call with
  | createEnv env =>
      obtain ⟨written, ready, same⟩ := Option.map_eq_some_iff.mp content
      cases same
      have prepared := toOption_some ready
      obtain ⟨_, validated, serialized⟩ := bind_ok prepared
      exact ⟨env, rfl, serialized_of_validated validated serialized⟩
  | updateEnv env precondition =>
      obtain ⟨written, ready, same⟩ := Option.map_eq_some_iff.mp content
      cases same
      have prepared := toOption_some ready
      obtain ⟨_, validated, prepared⟩ := bind_ok prepared
      obtain ⟨_, _, serialized⟩ := bind_ok prepared
      exact ⟨env, rfl, serialized_of_validated validated serialized⟩
  | upsertRuntime runtime precondition =>
      obtain ⟨written, _, same⟩ := Option.map_eq_some_iff.mp content
      cases same
  | upsertPackAnswers envId slot answers precondition => cases content
  | _ => cases content

theorem runtime_of_content {call : PgCall V} {envId : EnvId} {data : V}
    (content : call.content json ext = some (.runtime envId, data)) :
    ∃ runtime : EnvironmentRuntime, runtime.environmentId = envId ∧
      checkSchema SchemaVersion.environmentRuntimeV1 runtime.schema = .ok () ∧
      json.runtime.toValue runtime = .ok data := by
  cases call with
  | upsertRuntime runtime precondition =>
      obtain ⟨written, ready, same⟩ := Option.map_eq_some_iff.mp content
      cases same
      have prepared := toOption_some ready
      obtain ⟨_, schema, serialized⟩ := bind_ok prepared
      exact ⟨runtime, rfl, liftSpecError_ok schema, serializeForWrite_ok serialized⟩
  | createEnv env =>
      obtain ⟨written, _, same⟩ := Option.map_eq_some_iff.mp content
      cases same
  | updateEnv env precondition =>
      obtain ⟨written, _, same⟩ := Option.map_eq_some_iff.mp content
      cases same
  | upsertPackAnswers envId slot answers precondition => cases content
  | _ => cases content

/-- The digest of a document that was read back is the one it was written with. -/
theorem sha256Of_encoded {α : Type} {codec : JsonCodec V α} {value : α} {data : V}
    (encoded : codec.toValue value = .ok data) :
    sha256Of json codec value = .ok (json.sha256Of data) := by
  rw [sha256Of, encoded]

theorem fromValue_encoded {α : Type} {codec : JsonCodec V α} {value : α} {data data' : V}
    (encoded : codec.toValue value = .ok data)
    (same : codec.fromValue data' = codec.fromValue data) :
    fromValue codec data' = .ok value := by
  rw [fromValue, same, codec.fromValue_toValue value data encoded]

theorem verifyDigest_written {envId : EnvId} {data : V} {generation : Nat} :
    verifyDigest envId (pgRow json generation data).integrityDigest (json.sha256Of data) =
      .ok () := ensure_of rfl _

theorem decodeEnv_written {env : Environment} {data : V} {generation : Nat}
    (serialized : @Serialized V json ext env data) (keeps : KeepsText json data) :
    decodeEnv json ext env.environmentId (pgRow json generation data) =
      .ok ⟨env, (pgRow json generation data).revision⟩ := by
  have read : fromValue json.environment (pgRow json generation data).data = .ok env :=
    fromValue_encoded serialized.encoded keeps.environment
  have valid : liftSpecError (env.validate ext) = .ok () := by rw [serialized.valid]; rfl
  rw [decodeEnv, bind_of_ok read, bind_of_ok (ensure_of rfl _), bind_of_ok valid,
    bind_of_ok (sha256Of_encoded serialized.encoded), bind_of_ok verifyDigest_written]
  rfl

theorem decodeRuntime_written {runtime : EnvironmentRuntime} {data : V} {generation : Nat}
    (schema : checkSchema SchemaVersion.environmentRuntimeV1 runtime.schema = .ok ())
    (encoded : json.runtime.toValue runtime = .ok data) (keeps : KeepsText json data) :
    decodeRuntime json runtime.environmentId (pgRow json generation data) =
      .ok ⟨runtime, (pgRow json generation data).revision⟩ := by
  have read : fromValue json.runtime (pgRow json generation data).data = .ok runtime :=
    fromValue_encoded encoded keeps.runtime
  have known : liftSpecError (checkSchema SchemaVersion.environmentRuntimeV1 runtime.schema) =
      .ok () := by rw [schema]; rfl
  rw [decodeRuntime, bind_of_ok read, bind_of_ok (ensure_of rfl _), bind_of_ok known,
    bind_of_ok (sha256Of_encoded encoded), bind_of_ok verifyDigest_written]
  rfl

theorem decodeAnswers_written {envId : EnvId} {data : V} {generation : Nat}
    (keeps : KeepsText json data) :
    decodeAnswers json envId (pgRow json generation data) =
      .ok ⟨json.column data, (pgRow json generation data).revision⟩ := by
  have verified : verifyDigest envId (pgRow json generation data).integrityDigest
      (json.sha256Of (pgRow json generation data).data) = .ok () :=
    ensure_of keeps.digest _
  rw [decodeAnswers, bind_of_ok verified]
  rfl

theorem decodeAnswers_reprinted {envId : EnvId} {data : V} {generation : Nat}
    (reprinted : json.sha256Of (json.column data) ≠ json.sha256Of data) :
    decodeAnswers json envId (pgRow json generation data) = .error
      (.integrityMismatch envId (json.sha256Of data) (json.sha256Of (json.column data))) := by
  have refused : verifyDigest envId (pgRow json generation data).integrityDigest
      (json.sha256Of (pgRow json generation data).data) = .error
        (.integrityMismatch envId (json.sha256Of data) (json.sha256Of (json.column data))) :=
    if_neg reprinted
  rw [decodeAnswers, refused]
  rfl

theorem load_written {load writer : PgCall V} {rows : PgKey → Option (PgRow V)} {key : PgKey}
    {data : V} {generation : Nat} (loads : load.loads = some key)
    (content : writer.content json ext = some (key, data))
    (found : rows key = some (pgRow json generation data)) :
    Reads json key data (pgRow json generation data).revision
      ((load.operation json ext).apply rows).1 := by
  cases load with
  | loadEnv envId =>
      cases loads
      obtain ⟨env, rfl, serialized⟩ := serialized_of_content content
      refine ⟨fun keeps => ?_, fun _ _ same => by cases same⟩
      refine ⟨.env ⟨env, (pgRow json generation data).revision⟩, ?_, serialized.encoded, rfl⟩
      simp only [PgCall.operation, Operation.apply, found, decodeEnv_written serialized keeps]
      rfl
  | loadRuntime envId =>
      cases loads
      obtain ⟨runtime, rfl, schema, encoded⟩ := runtime_of_content content
      refine ⟨fun keeps => ?_, fun _ _ same => by cases same⟩
      refine ⟨.runtime (some ⟨runtime, (pgRow json generation data).revision⟩), ?_, encoded, rfl⟩
      simp only [PgCall.operation, Operation.apply, found,
        decodeRuntime_written schema encoded keeps]
      rfl
  | loadPackAnswers envId slot =>
      cases loads
      refine ⟨fun keeps => ?_, fun own slot' same reprinted => ?_⟩
      · refine ⟨.answers (some ⟨json.column data, (pgRow json generation data).revision⟩), ?_,
          rfl, rfl⟩
        simp only [PgCall.operation, Operation.apply, found, decodeAnswers_written keeps]
        rfl
      · cases same
        simp only [PgCall.operation, Operation.apply, found, decodeAnswers_reprinted reprinted]
        rfl
  | _ => cases loads

theorem load_absent {load : PgCall V} {rows : PgKey → Option (PgRow V)} {key : PgKey}
    (loads : load.loads = some key) (absent : rows key = none) :
    ((load.operation json ext).apply rows).1 = ifAbsent key := by
  cases load with
  | loadEnv envId =>
      cases loads
      simp only [PgCall.operation, Operation.apply, absent, ifAbsent]
  | loadRuntime envId =>
      cases loads
      simp only [PgCall.operation, Operation.apply, absent, ifAbsent]
  | loadPackAnswers envId slot =>
      cases loads
      simp only [PgCall.operation, Operation.apply, absent, ifAbsent]
  | _ => cases loads

end Documents

section Sources

variable {json : PgStoreJson V} {ext : Externals}

theorem Step.source {rows after : PgKey → Option (PgRow V)} {call : PgCall V} {a : PgAnswer V}
    {key : PgKey} {row : PgRow V} (step : Step json ext rows call a after)
    (present : after key = some row) :
    rows key = some row ∨ ∃ data, call.content json ext = some (key, data) ∧
      row = pgRow json row.generation data ∧ a = .ok (.revision row.revision) := by
  cases step with
  | silent unwritten => exact .inl present
  | @created call written data content absent free =>
      by_cases same : key = written
      · subst same
        cases (Function.update_self key _ rows).symm.trans present
        exact .inr ⟨data, content, rfl, rfl⟩
      · exact .inl ((Function.update_of_ne same _ rows).symm.trans present)
  | @overwritten call written data current pc content found pinned passed =>
      by_cases same : key = written
      · subst same
        cases (Function.update_self key _ rows).symm.trans present
        exact .inr ⟨data, content, rfl, rfl⟩
      · exact .inl ((Function.update_of_ne same _ rows).symm.trans present)
  | @deleted envId slot pc current found passed =>
      by_cases same : key = .answers envId slot.asStr
      · subst same
        cases (Function.update_self _ _ rows).symm.trans present
      · exact .inl ((Function.update_of_ne same _ rows).symm.trans present)

theorem rowsAfter_source {history : History V} {key : PgKey} {row : PgRow V}
    (present : rowsAfter json ext history key = some row) :
    ∃ past entry later data, history = past ++ entry :: later ∧
      WroteAt json ext past key entry data row.revision ∧
      row = pgRow json row.generation data := by
  induction history using List.reverseRecOn with
  | nil => cases present
  | append_singleton rest last ih =>
      rcases (rowsAfter_step last).source present with before | ⟨data, content, shape, answered⟩
      · obtain ⟨past, entry, later, data, rfl, place, shape⟩ := ih before
        exact ⟨past, entry, later ++ [last], data, by simp, place, shape⟩
      · exact ⟨rest, last, [], data, rfl, ⟨content, answered⟩, shape⟩

theorem load_at {load : PgCall V} {past : History V} {key : PgKey}
    (loads : load.loads = some key) :
    ((load.operation json ext).apply (rowsAfter json ext past)).1 = ifAbsent key ∨
      ∃ data earlier entry later revision, past = earlier ++ entry :: later ∧
        WroteAt json ext earlier key entry data revision ∧
        Reads json key data revision
          ((load.operation json ext).apply (rowsAfter json ext past)).1 := by
  cases found : rowsAfter json ext past key with
  | none => exact .inl (load_absent loads found)
  | some row =>
      obtain ⟨earlier, entry, later, data, split, place, shape⟩ := rowsAfter_source found
      have reads := load_written loads place.content (shape ▸ found)
      rw [← shape] at reads
      exact .inr ⟨data, earlier, entry, later, row.revision, split, place, reads⟩

end Sources

section Runs

variable {json : PgStoreJson V} {ext : Externals} {moves : List (Move (PgCall V))}

/-- A load finds nothing, or it reads what some client of the run wrote, under the revision
that client was told, if it was told anything. -/
theorem loads_show_what_was_written (possible : Possible json ext moves) {i : Nat}
    {task : Client PgKey (PgRow V) (PgAnswer V) (PgCall V)} {key : PgKey} {answer : PgAnswer V}
    (found : (poolAfter json ext moves).tasks[i]? = some task) (loads : task.tag.loads = some key)
    (done : task.program = .done (.ok answer)) :
    answer = ifAbsent key ∨
      ∃ (data : V) (revision : EnvRevision) (j : Nat)
        (writer : Client PgKey (PgRow V) (PgAnswer V) (PgCall V)),
        Reads json key data revision answer ∧
        (poolAfter json ext moves).tasks[j]? = some writer ∧
        writer.tag.content json ext = some (key, data) ∧
        ∀ told, writer.program = .done (.ok told) → told = .ok (.revision revision) := by
  obtain ⟨history, linearized⟩ := linearized_pool possible
  obtain ⟨past, tag, later, split, answered⟩ :=
    mem_oneByOne.mp (linearized.answered i task answer found done)
  obtain ⟨known, present, tagged⟩ := linearized.known (i, tag) (by
    rw [split]
    exact List.mem_append_right _ List.mem_cons_self)
  cases found.symm.trans present
  cases tagged
  have outcome := @load_at V json ext task.tag past key loads
  rcases outcome with absent | ⟨data, earlier, entry, rest, revision, before, place, reads⟩
  · exact .inl (answered.trans absent)
  · have inside : entry ∈ history := by
      rw [split, before]
      exact List.mem_append_left _ (List.mem_append_right _ List.mem_cons_self)
    obtain ⟨writer, alongside, own⟩ := linearized.known entry inside
    refine .inr ⟨data, revision, entry.1, writer, answered.symm ▸ reads, alongside,
      own ▸ place.content, fun told finished => ?_⟩
    have written : (entry.1, (.ok (.revision revision) : PgAnswer V)) ∈
        (oneByOne (PgCall.operation json ext) history).1 := by
      refine mem_oneByOne.mpr ⟨earlier, entry.2, rest ++ (i, task.tag) :: later, ?_,
        place.revision.symm⟩
      rw [split, before, List.append_assoc]
      rfl
    exact oneByOne_unique linearized.once (linearized.answered entry.1 writer told alongside finished)
      written

theorem loads_show_what_was_written_racing :
    ∃ (j : Nat) (writer : Client PgKey (PgRow PlainValue) (PgAnswer PlainValue) (PgCall PlainValue)),
      (poolAfter plainPgJson noExternals (racing ++ raced)).tasks[j]? = some writer ∧
      writer.tag.content plainPgJson noExternals =
        some (.environment localFresh.environmentId, .doc (.environment renamed)) := by
  have done : ∃ task, (poolAfter plainPgJson noExternals (racing ++ raced)).tasks[3]? = some task ∧
      task.tag = .loadEnv localFresh.environmentId ∧ task.program = .done (.ok (.ok (.env
        ⟨renamed, (pgRow plainPgJson 2 (.doc (.environment renamed))).revision⟩))) :=
    ⟨_, rfl, rfl, rfl⟩
  obtain ⟨task, found, load, answered⟩ := done
  rcases loads_show_what_was_written (by decide) found (by rw [load]; rfl) answered with
    absent | ⟨data, revision, j, writer, reads, present, content, _⟩
  · cases absent
  · obtain ⟨reply, same, shown⟩ := reads.kept ⟨rfl, rfl, rfl⟩
    cases same
    cases shown.1
    exact ⟨j, writer, present, content⟩

end Runs

end GreenticDeployer.Store.Postgres
