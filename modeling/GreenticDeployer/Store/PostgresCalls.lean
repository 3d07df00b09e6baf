import GreenticDeployer.Lib.Results
import GreenticDeployer.Lib.SerialRuns
import GreenticDeployer.Store.Postgres

/-!
# The Postgres store, statement by statement

Each method of the store as its client carries it out: the checks it makes before it
speaks to the database, the statements of its transaction, and what it answers. An early
return drops the transaction, which rolls it back. The three tables are keyed rows of
the same columns.
-/

set_option maxHeartbeats 200000

namespace GreenticDeployer.Store.Postgres

open Spec Engine Lib Lib.Rows

/-- The JSON library of the store's clients, and its `JSONB` columns. -/
structure PgStoreJson (V : Type) extends StoreJson V where
  column : V → V

variable {V : Type} (json : PgStoreJson V) (ext : Externals)

inductive PgKey where
  | environment (envId : EnvId)
  | runtime (envId : EnvId)
  | answers (envId : EnvId) (slot : String)
  deriving DecidableEq, Repr

/-- `REFERENCES environments(env_id)`. -/
def PgKey.references : PgKey → Option PgKey
  | environment _ => none
  | runtime envId => some (environment envId)
  | answers envId _ => some (environment envId)

abbrev PgRow (V : Type) := AnswersRow V

def AnswersRow.revision (row : PgRow V) : EnvRevision := ⟨row.generation, row.etag⟩

def pgJson : PgJson V := ⟨json.sha256Of, fun digest => ⟨digest⟩, json.column⟩

abbrev pgRow (generation : Nat) (data : V) : PgRow V := stored (pgJson json) generation data

/-- What a call is refused with, the driver's own errors apart. -/
inductive PgFailure where
  | store (error : PgStoreError)
  | alreadyExists (envId : EnvId) (generation : Nat)
  | integrityMismatch (envId : EnvId) (stored recomputed : String)
  | envIdMismatch (keyed payload : EnvId)
  | spec (error : SpecError)
  | integrity (detail : String)
  | json (detail : String)
  deriving DecidableEq, Repr

inductive PgReply (V : Type) where
  | found (present : Bool)
  | env (loaded : Loaded Environment)
  | runtime (loaded : Option (Loaded EnvironmentRuntime))
  | answers (loaded : Option (Loaded V))
  | revision (revision : EnvRevision)
  | deleted

abbrev PgAnswer (V : Type) := Except PgFailure (PgReply V)

abbrev PgClient (V α : Type) := Dialogue PgKey (PgRow V) α

def liftSpecError : Except SpecError Unit → Except PgFailure Unit
  | .error e => .error (.spec e)
  | .ok () => .ok ()

def validateEnvironment (env : Environment) : Except PgFailure Unit := do
  liftSpecError (checkSchema SchemaVersion.environmentV1 env.schema)
  liftSpecError (env.validate ext)

/-- The digest of a value is taken first, and serialises it. -/
def sha256Of {α : Type} (codec : JsonCodec V α) (value : α) : Except PgFailure String :=
  match codec.toValue value with
  | .error detail => .error (.integrity detail)
  | .ok data => .ok (json.sha256Of data)

def serializeForWrite {α : Type} (codec : JsonCodec V α) (value : α) : Except PgFailure V := do
  let _ ← sha256Of json codec value
  match codec.toValue value with
  | .error detail => throw (.json detail)
  | .ok data => return data

def fromValue {α : Type} (codec : JsonCodec V α) (data : V) : Except PgFailure α :=
  match codec.fromValue data with
  | .error detail => .error (.json detail)
  | .ok value => .ok value

def verifyDigest (envId : EnvId) (stored recomputed : String) : Except PgFailure Unit :=
  ensure (recomputed = stored) (.integrityMismatch envId stored recomputed)

/-- What a present row must satisfy before it is overwritten or deleted. -/
def checkPrecondition (envId : EnvId) (precondition : Option Precondition) (current : PgRow V) :
    Except PgFailure Unit :=
  match precondition with
  | none => .error (.store .preconditionRequired)
  | some pc =>
    match pc.check current.etag current.generation with
    | .error e => .error (.store (.fromPrecondition envId e))
    | .ok () => .ok ()

def PgClient.envExists (envId : EnvId) : PgClient V (PgAnswer V) := do
  let row : Option (PgRow V) ← ask (.select (.environment envId))
  return .ok (.found row.isSome)

def decodeEnv (envId : EnvId) (row : PgRow V) : Except PgFailure (Loaded Environment) := do
  let env ← fromValue json.environment row.data
  ensure (env.environmentId = envId) (.envIdMismatch envId env.environmentId)
  liftSpecError (env.validate ext)
  let recomputed ← sha256Of json json.environment env
  verifyDigest envId row.integrityDigest recomputed
  return ⟨env, row.revision⟩

def PgClient.loadEnv (envId : EnvId) : PgClient V (PgAnswer V) := do
  let row : Option (PgRow V) ← ask (.select (.environment envId))
  match row with
  | none => return .error (.store (.notFound envId))
  | some row => return (decodeEnv json ext envId row).map .env

def decodeRuntime (envId : EnvId) (row : PgRow V) :
    Except PgFailure (Loaded EnvironmentRuntime) := do
  let runtime ← fromValue json.runtime row.data
  ensure (runtime.environmentId = envId) (.envIdMismatch envId runtime.environmentId)
  liftSpecError (checkSchema SchemaVersion.environmentRuntimeV1 runtime.schema)
  let recomputed ← sha256Of json json.runtime runtime
  verifyDigest envId row.integrityDigest recomputed
  return ⟨runtime, row.revision⟩

def PgClient.loadRuntime (envId : EnvId) : PgClient V (PgAnswer V) := do
  let row : Option (PgRow V) ← ask (.select (.runtime envId))
  match row with
  | none => return .ok (.runtime none)
  | some row => return (decodeRuntime json envId row).map fun loaded => .runtime (some loaded)

def decodeAnswers (envId : EnvId) (row : PgRow V) : Except PgFailure (Loaded V) := do
  verifyDigest envId row.integrityDigest (json.sha256Of row.data)
  return ⟨row.data, row.revision⟩

def PgClient.loadPackAnswers (envId : EnvId) (slot : CapabilitySlot) : PgClient V (PgAnswer V) := do
  let row : Option (PgRow V) ← ask (.select (.answers envId slot.asStr))
  match row with
  | none => return .ok (.answers none)
  | some row => return (decodeAnswers json envId row).map fun loaded => .answers (some loaded)

/-- What `create_env` does before it speaks to the database. -/
def prepareCreate (env : Environment) : Except PgFailure V := do
  validateEnvironment ext env
  serializeForWrite json json.environment env

def PgClient.createEnv (env : Environment) : PgClient V (PgAnswer V) :=
  match prepareCreate json ext env with
  | .error e => return .error e
  | .ok data => do
    let key := PgKey.environment env.environmentId
    let row := pgRow json 1 data
    let inserted : Bool ← ask (.insertIfAbsent key row)
    if inserted then return .ok (.revision row.revision)
    else
      let existing : Option (PgRow V) ← ask (.select key)
      match existing with
      | some existing => return .error (.alreadyExists env.environmentId existing.generation)
      | none => throw .rowNotFound

def prepareUpdate (env : Environment) (precondition : Precondition) : Except PgFailure V := do
  validateEnvironment ext env
  ensure precondition.isConditional (.store .preconditionRequired)
  serializeForWrite json json.environment env

def PgClient.updateEnv (env : Environment) (precondition : Precondition) :
    PgClient V (PgAnswer V) :=
  match prepareUpdate json ext env precondition with
  | .error e => return .error e
  | .ok data => do
    let key := PgKey.environment env.environmentId
    let xid : Nat ← ask .begin
    let current : Option (PgRow V) ← ask (.selectForUpdate xid key)
    match current with
    | none => leave xid key (.error (.store (.notFound env.environmentId)))
    | some current =>
      match checkPrecondition env.environmentId (some precondition) current with
      | .error e => leave xid key (.error e)
      | .ok () =>
        let row := pgRow json (current.generation + 1) data
        let _ : Unit ← ask (.update xid key row)
        let _ : Unit ← ask (.commit xid key)
        return .ok (.revision row.revision)

/-- The transaction of both upserts: an absent row admits only an unconditional write,
a present one only a matching pin. -/
def PgClient.upsert (key : PgKey) (envId : EnvId) (data : V) (precondition : Option Precondition) :
    PgClient V (PgAnswer V) := do
  let xid : Nat ← ask .begin
  let current : Option (PgRow V) ← ask (.selectForUpdate xid key)
  match current with
  | none =>
    if precondition.any (·.isConditional) then leave xid key (.error (.store (.notFound envId)))
    else
      let row := pgRow json 1 data
      let _ : Unit ← ask (.insert xid key row)
      let _ : Unit ← ask (.commit xid key)
      return .ok (.revision row.revision)
  | some current =>
    match checkPrecondition envId precondition current with
    | .error e => leave xid key (.error e)
    | .ok () =>
      let row := pgRow json (current.generation + 1) data
      let _ : Unit ← ask (.update xid key row)
      let _ : Unit ← ask (.commit xid key)
      return .ok (.revision row.revision)

def prepareRuntime (runtime : EnvironmentRuntime) : Except PgFailure V := do
  liftSpecError (checkSchema SchemaVersion.environmentRuntimeV1 runtime.schema)
  serializeForWrite json json.runtime runtime

def PgClient.upsertRuntime (runtime : EnvironmentRuntime) (precondition : Option Precondition) :
    PgClient V (PgAnswer V) :=
  match prepareRuntime json runtime with
  | .error e => return .error e
  | .ok data =>
    PgClient.upsert json (.runtime runtime.environmentId) runtime.environmentId data precondition

/-- The answers are a JSON value already, which serialises as it is. -/
def PgClient.upsertPackAnswers (envId : EnvId) (slot : CapabilitySlot) (answers : V)
    (precondition : Option Precondition) : PgClient V (PgAnswer V) :=
  PgClient.upsert json (.answers envId slot.asStr) envId answers precondition

def PgClient.deletePackAnswers (envId : EnvId) (slot : CapabilitySlot)
    (precondition : Precondition) : PgClient V (PgAnswer V) :=
  if ¬ precondition.isConditional then return .error (.store .preconditionRequired)
  else do
    let key := PgKey.answers envId slot.asStr
    let xid : Nat ← ask .begin
    let current : Option (PgRow V) ← ask (.selectForUpdate xid key)
    match current with
    | none => leave xid key (.ok .deleted)
    | some current =>
      match checkPrecondition envId (some precondition) current with
      | .error e => leave xid key (.error e)
      | .ok () =>
        let _ : Unit ← ask (.delete xid key)
        let _ : Unit ← ask (.commit xid key)
        return .ok .deleted

inductive PgCall (V : Type) where
  | envExists (envId : EnvId)
  | loadEnv (envId : EnvId)
  | createEnv (env : Environment)
  | updateEnv (env : Environment) (precondition : Precondition)
  | loadRuntime (envId : EnvId)
  | upsertRuntime (runtime : EnvironmentRuntime) (precondition : Option Precondition)
  | loadPackAnswers (envId : EnvId) (slot : CapabilitySlot)
  | upsertPackAnswers (envId : EnvId) (slot : CapabilitySlot) (answers : V)
      (precondition : Option Precondition)
  | deletePackAnswers (envId : EnvId) (slot : CapabilitySlot) (precondition : Precondition)

def PgCall.body : PgCall V → PgClient V (PgAnswer V)
  | envExists envId => PgClient.envExists envId
  | loadEnv envId => PgClient.loadEnv json ext envId
  | createEnv env => PgClient.createEnv json ext env
  | updateEnv env precondition => PgClient.updateEnv json ext env precondition
  | loadRuntime envId => PgClient.loadRuntime json envId
  | upsertRuntime runtime precondition => PgClient.upsertRuntime json runtime precondition
  | loadPackAnswers envId slot => PgClient.loadPackAnswers json envId slot
  | upsertPackAnswers envId slot answers precondition =>
    PgClient.upsertPackAnswers json envId slot answers precondition
  | deletePackAnswers envId slot precondition => PgClient.deletePackAnswers envId slot precondition

/-- Any number of clients of one store. -/
def postgresRuns : System (Clients PgKey (PgRow V) (PgAnswer V) (PgCall V)) (Move (PgCall V)) :=
  databaseRuns PgKey.references (PgCall.body json ext)

/-- The call that goes on only once its checks have passed. -/
def prepared (outcome : Except PgFailure V)
    (next : V → Operation PgKey (PgRow V) (PgAnswer V)) :
    Operation PgKey (PgRow V) (PgAnswer V) :=
  match outcome with
  | .error e => .answer (.error e)
  | .ok data => next data

def compareAndSet (envId : EnvId) (precondition : Option Precondition)
    (next : PgRow V → Option (PgRow V)) (reply : PgRow V → PgReply V) (current : PgRow V) :
    Verdict (Option (PgRow V)) (PgAnswer V) :=
  match checkPrecondition envId precondition current with
  | .error e => .reject (.error e)
  | .ok () => .write (next current) (.ok (reply current))

def successor (data : V) (current : PgRow V) : PgRow V := pgRow json (current.generation + 1) data

def overwrite (envId : EnvId) (data : V) (precondition : Option Precondition) :
    PgRow V → Verdict (Option (PgRow V)) (PgAnswer V) :=
  compareAndSet envId precondition (fun current => some (successor json data current))
    fun current => .revision (successor json data current).revision

def firstRow (envId : EnvId) (data : V) (precondition : Option Precondition) :
    Verdict (PgRow V) (PgAnswer V) :=
  if precondition.any (·.isConditional) then .reject (.error (.store (.notFound envId)))
  else .write (pgRow json 1 data) (.ok (.revision (pgRow json 1 data).revision))

def PgCall.operation : PgCall V → Operation PgKey (PgRow V) (PgAnswer V)
  | envExists envId => .read (.environment envId) fun row => .ok (.found row.isSome)
  | loadEnv envId => .read (.environment envId) fun
    | none => .error (.store (.notFound envId))
    | some row => (decodeEnv json ext envId row).map .env
  | createEnv env => prepared (prepareCreate json ext env) fun data =>
    .create (.environment env.environmentId) (pgRow json 1 data)
      (.ok (.revision (pgRow json 1 data).revision))
      fun existing => .error (.alreadyExists env.environmentId existing.generation)
  | updateEnv env precondition => prepared (prepareUpdate json ext env precondition) fun data =>
    .locked (.environment env.environmentId)
      (.reject (.error (.store (.notFound env.environmentId))))
      (overwrite json env.environmentId data (some precondition))
  | loadRuntime envId => .read (.runtime envId) fun
    | none => .ok (.runtime none)
    | some row => (decodeRuntime json envId row).map fun loaded => .runtime (some loaded)
  | upsertRuntime runtime precondition => prepared (prepareRuntime json runtime) fun data =>
    .locked (.runtime runtime.environmentId)
      (firstRow json runtime.environmentId data precondition)
      (overwrite json runtime.environmentId data precondition)
  | loadPackAnswers envId slot => .read (.answers envId slot.asStr) fun
    | none => .ok (.answers none)
    | some row => (decodeAnswers json envId row).map fun loaded => .answers (some loaded)
  | upsertPackAnswers envId slot answers precondition =>
    .locked (.answers envId slot.asStr) (firstRow json envId answers precondition)
      (overwrite json envId answers precondition)
  | deletePackAnswers envId slot precondition =>
    if ¬ precondition.isConditional then .answer (.error (.store .preconditionRequired))
    else .locked (.answers envId slot.asStr) (.reject (.ok .deleted))
      (compareAndSet envId (some precondition) (fun _ => none) fun _ => .deleted)

section Dialogues

variable {json : PgStoreJson V} {ext : Externals}

theorem concludePresent_overwrite {xid : Nat} {key : PgKey} {envId : EnvId} {data : V}
    {precondition : Option Precondition} (current : PgRow V) :
    concludePresent xid key (overwrite json envId data precondition current) =
      (match checkPrecondition envId precondition current with
        | .error e => leave xid key (.error e)
        | .ok () => do
          let _ : Unit ← ask (.update xid key (successor json data current))
          let _ : Unit ← ask (.commit xid key)
          return .ok (.revision (successor json data current).revision) :
        PgClient V (PgAnswer V)) := by
  unfold overwrite compareAndSet
  cases checkPrecondition envId precondition current <;> rfl

theorem upsert_dialogue {key : PgKey} {envId : EnvId} {data : V}
    {precondition : Option Precondition} :
    PgClient.upsert json key envId data precondition =
      (Operation.locked key (firstRow json envId data precondition)
        (overwrite json envId data precondition)).dialogue := by
  refine bind_congr fun xid => bind_congr fun current => ?_
  cases current with
  | none =>
      show _ = concludeAbsent xid key (firstRow json envId data precondition)
      unfold firstRow
      dsimp only
      split <;> rfl
  | some current => exact (concludePresent_overwrite current).symm

theorem PgCall.dialogued (call : PgCall V) :
    call.body json ext = (call.operation json ext).dialogue := by
  cases call with
  | envExists envId => rfl
  | loadEnv envId => exact bind_congr fun row => by cases row <;> rfl
  | createEnv env =>
      simp only [body, PgClient.createEnv, operation]
      cases prepareCreate json ext env with
      | error e => rfl
      | ok data =>
          refine bind_congr fun inserted => ?_
          split
          · rfl
          · exact bind_congr fun existing => by cases existing <;> rfl
  | updateEnv env precondition =>
      simp only [body, PgClient.updateEnv, operation]
      cases prepareUpdate json ext env precondition with
      | error e => rfl
      | ok data =>
          refine bind_congr fun xid => bind_congr fun current => ?_
          cases current with
          | none => rfl
          | some current => exact (concludePresent_overwrite current).symm
  | loadRuntime envId => exact bind_congr fun row => by cases row <;> rfl
  | upsertRuntime runtime precondition =>
      simp only [body, PgClient.upsertRuntime, operation]
      cases prepareRuntime json runtime with
      | error e => rfl
      | ok data => exact upsert_dialogue
  | loadPackAnswers envId slot => exact bind_congr fun row => by cases row <;> rfl
  | upsertPackAnswers envId slot answers precondition => exact upsert_dialogue
  | deletePackAnswers envId slot precondition =>
      simp only [body, PgClient.deletePackAnswers, operation]
      split
      · rfl
      · refine bind_congr fun xid => bind_congr fun current => ?_
        cases current with
        | none => rfl
        | some current =>
            show _ = concludePresent _ _ (compareAndSet _ _ _ _ _)
            unfold compareAndSet
            dsimp only
            cases checkPrecondition envId (some precondition) current <;> rfl

end Dialogues

end GreenticDeployer.Store.Postgres
