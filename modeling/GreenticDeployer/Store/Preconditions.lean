import GreenticDeployer.Store.Effects

/-!
# Which calls fail a precondition

A storage call fails its precondition only where a row has moved on from what the
caller pinned. Met pins, and every call without one, fail for other reasons alone.
-/

set_option maxHeartbeats 200000

namespace GreenticDeployer.Store

open Spec Engine Lib

variable {V B : Type} {json : StoreJson V} {ext : Externals} {db : Db V B}

def StorageError.stale : StorageError → Bool
  | .preconditionFailed .. => true
  | _ => false

/-- Whatever went wrong, it was no stale pin. -/
def Unstale {τ : Type} (outcome : Except StorageError τ) : Prop :=
  ∀ e, outcome = .error e → e.stale = false

section Outcomes

variable {τ υ : Type}

theorem Unstale.bind {x : Except StorageError τ} {f : τ → Except StorageError υ}
    (first : Unstale x) (rest : ∀ value, x = .ok value → Unstale (f value)) :
    Unstale (x >>= f) := by
  intro e failed
  rcases bind_error failed with early | ⟨value, returned, late⟩
  · exact first e early
  · exact rest value returned e late

theorem Unstale.ok (value : τ) : Unstale (.ok value) := fun _ failed => by cases failed

theorem Unstale.error {e : StorageError} (other : e.stale = false) :
    Unstale (.error e : Except StorageError τ) := fun _ failed => by
  cases failed
  exact other

theorem Unstale.ensure {condition : Prop} [Decidable condition] {e : StorageError}
    (other : e.stale = false) : Unstale (Lib.ensure condition e) := by
  unfold Lib.ensure
  split
  · exact .ok ()
  · exact .error other

end Outcomes

theorem unstale_liftSpec (checked : Except SpecError Unit) : Unstale (liftSpec checked) := by
  cases checked with
  | ok u => exact .ok ()
  | error e => exact .error rfl

theorem unstale_serialize {α : Type} (codec : JsonCodec V α) (value : α) :
    Unstale (serializeForWrite codec value) := by
  unfold serializeForWrite
  split
  · exact .error rfl
  · exact .ok _

theorem unstale_decode {α : Type} (codec : JsonCodec V α) (data : V) :
    Unstale (decode codec data) := by
  unfold decode
  split
  · exact .error rfl
  · exact .ok _

theorem unstale_nextGeneration (generation : Nat) : Unstale (nextGeneration generation) := by
  unfold nextGeneration
  split
  · exact .ok _
  · exact .error rfl

theorem unstale_validate (env : Environment) : Unstale (validateEnvironment ext env) :=
  (unstale_liftSpec _).bind fun _ _ => unstale_liftSpec _

theorem unstale_appendAndPrune (state : AuditState V) (envId : EnvId) (eventId : String)
    (event : V) (auditCap : Option Nat) (now : Timestamp) :
    Unstale (appendAndPrune state envId eventId event auditCap now) := by
  intro e failed
  unfold appendAndPrune appendAudit at failed
  split at failed
  · rename_i refused
    cases failed
    split at refused
    · cases refused
      rfl
    · split at refused
      · cases refused
        rfl
      · cases refused
  · split at failed <;> cases failed

theorem unstale_journalInTx (journal : MutationJournal V B) (auditCap : Option Nat)
    (now : Timestamp) : Unstale (journalInTx db journal auditCap now) := by
  intro e failed
  unfold journalInTx at failed
  split at failed
  · rename_i refused
    cases failed
    unfold insertLedger at refused
    split at refused
    · cases refused
      rfl
    · cases refused
  · split at failed
    · rename_i refused
      cases failed
      exact unstale_appendAndPrune _ _ _ _ _ _ _ refused
    · cases failed

theorem unstale_journal? (journal : Option (MutationJournal V B)) (auditCap : Option Nat)
    (now : Timestamp) : Unstale (journal? db journal auditCap now) := by
  cases journal with
  | none => exact .ok db
  | some journal => exact unstale_journalInTx journal auditCap now

theorem unstale_check {envId : EnvId} {precondition : Precondition} {revision : EnvRevision}
    (met : precondition.check revision.etag revision.generation = .ok ()) :
    Unstale (checkPrecondition envId precondition revision) := by
  simp only [checkPrecondition, met]
  exact .ok ()

/-- The pins a write of this environment carries are those of its row. -/
def MeetsRow (db : Db V B) (envId : EnvId) (precondition : Precondition) : Prop :=
  ∀ row, db.environments.lookup envId = some row →
    precondition.check row.etag row.generation = .ok ()

theorem unstale_updateEnvInTx {env : Environment} {precondition : Precondition}
    (meets : MeetsRow db env.environmentId precondition) :
    Unstale (updateEnvInTx json ext db env precondition) := by
  refine (unstale_validate env).bind fun _ _ => ?_
  refine (Unstale.ensure rfl).bind fun _ _ => ?_
  refine (unstale_serialize _ _).bind fun data _ => ?_
  split
  · exact .error rfl
  · rename_i row current
    refine (unstale_check (meets row current)).bind fun _ _ => ?_
    exact (unstale_nextGeneration _).bind fun generation _ => .ok _

/-- What a trust root's writer pins: the row as it is, or nothing where there is none. -/
def MeetsRoot (db : Db V B) (envId : EnvId) (precondition : Option Precondition) : Prop :=
  ∀ row, db.trustRoots.lookup envId = some row →
    ∀ pin ∈ precondition, pin.check row.etag row.generation = .ok ()

theorem unstale_casUpsert {envId : EnvId} {precondition : Option Precondition}
    (meets : MeetsRoot db envId precondition) :
    Unstale (casUpsert (db.trustRoots.lookup envId) envId precondition (requireEnv db envId)) := by
  unfold casUpsert
  cases current : db.trustRoots.lookup envId with
  | none =>
      dsimp only
      split
      · exact .error rfl
      · have required : Unstale (requireEnv db envId) := Unstale.ensure rfl
        cases outcome : requireEnv db envId with
        | ok u => exact .ok 1
        | error e => exact .error (required e outcome)
  | some row =>
      cases precondition with
      | none => exact .error rfl
      | some pin =>
          refine (unstale_check (meets row current pin rfl)).bind fun _ _ => ?_
          exact unstale_nextGeneration row.generation

theorem loadEnv_ok {envId : EnvId} {loaded : Loaded Environment}
    (returned : loadEnv json ext db envId = .ok loaded) :
    loaded.value.environmentId = envId ∧
      ∃ row, db.environments.lookup envId = some row ∧ loaded.revision = row.revision := by
  unfold loadEnv at returned
  split at returned
  · cases returned
  · rename_i row current
    obtain ⟨_, _, returned⟩ := bind_ok returned
    obtain ⟨env, _, returned⟩ := bind_ok returned
    obtain ⟨_, named, returned⟩ := bind_ok returned
    obtain ⟨_, _, returned⟩ := bind_ok returned
    cases returned
    exact ⟨ensure_ok named, row, current, rfl⟩

theorem unstale_loadEnv (envId : EnvId) : Unstale (loadEnv json ext db envId) := by
  unfold loadEnv
  split
  · exact .error rfl
  · rename_i row current
    refine (Unstale.ensure rfl).bind fun _ _ => ?_
    refine (unstale_decode _ _).bind fun env _ => ?_
    refine (Unstale.ensure rfl).bind fun _ _ => ?_
    exact (unstale_liftSpec _).bind fun _ _ => .ok _

theorem loadEnv_notFound {envId other : EnvId}
    (failed : loadEnv json ext db envId = .error (.notFound other)) :
    db.environments.lookup envId = none := by
  unfold loadEnv at failed
  split at failed
  · assumption
  · rcases bind_error failed with digest | ⟨_, _, failed⟩
    · unfold verifyIntegrity ensure at digest
      split at digest <;> cases digest
    · rcases bind_error failed with undecoded | ⟨env, _, failed⟩
      · unfold decode at undecoded
        split at undecoded <;> cases undecoded
      · rcases bind_error failed with misnamed | ⟨_, _, failed⟩
        · unfold ensure at misnamed
          split at misnamed <;> cases misnamed
        · rcases bind_error failed with invalid | ⟨_, _, failed⟩
          · unfold liftSpec at invalid
            split at invalid <;> cases invalid
          · cases failed

theorem loadTrustRoot_ok {envId : EnvId} {root : Option (Loaded TrustRootDocument)}
    (returned : loadTrustRoot json db envId = .ok root) :
    root.map (·.revision) = (db.trustRoots.lookup envId).map DocRow.revision := by
  unfold loadTrustRoot at returned
  split at returned
  · rename_i absent
    cases returned
    rw [absent]
    rfl
  · rename_i row current
    obtain ⟨_, _, returned⟩ := bind_ok returned
    obtain ⟨_, _, returned⟩ := bind_ok returned
    obtain ⟨_, _, returned⟩ := bind_ok returned
    cases returned
    rw [current]
    rfl

theorem unstale_loadTrustRoot (envId : EnvId) : Unstale (loadTrustRoot json db envId) := by
  unfold loadTrustRoot
  split
  · exact .ok none
  · rename_i row current
    refine (Unstale.ensure rfl).bind fun _ _ => ?_
    refine (unstale_decode _ _).bind fun doc _ => ?_
    exact (unstale_liftSpec _).bind fun _ _ => .ok _

section Calls

variable {input : StoreInput}

theorem unstale_execute {call : StorageCall V B}
    (unstale : Unstale (transaction json ext input db call)) :
    Unstale (execute json ext input db call).1 := by
  unfold execute
  split
  · exact .ok _
  · rename_i e failed
    exact .error (unstale e failed)

theorem unstale_readOnly {τ : Type} {reply : Except StorageError τ} (unstale : Unstale reply) :
    Unstale (readOnly db reply) := by
  unfold readOnly
  split
  · exact .ok _
  · exact .error (unstale _ rfl)

theorem execute_loadEnv_notFound {envId other : EnvId}
    (failed : (execute json ext input db (.loadEnv envId)).1 = .error (.notFound other)) :
    db.environments.lookup envId = none := by
  have read : loadEnv json ext db envId = .error (.notFound other) := by
    cases outcome : loadEnv json ext db envId with
    | ok loaded => simp only [execute, transaction, readOnly, outcome, reduceCtorEq] at failed
    | error e =>
        simp only [execute, transaction, readOnly, outcome] at failed
        exact failed
  exact loadEnv_notFound read

/-- The calls that carry no pin of their own. -/
def unpinned : StorageCall V B → Bool
  | .loadEnv _ | .lookupIdempotency .. | .loadTrustRoot _ | .loadEnvSnapshot _ => true
  | .recordJournal _ | .createEnv .. | .createBackup .. | .deleteBackup .. => true
  | _ => false

theorem unstale_unpinned {call : StorageCall V B} (bare : unpinned call = true) :
    Unstale (execute json ext input db call).1 := by
  refine unstale_execute ?_
  cases call with
  | loadEnv envId => exact unstale_readOnly (unstale_loadEnv envId)
  | lookupIdempotency envId key => exact .ok _
  | loadTrustRoot envId => exact unstale_readOnly (unstale_loadTrustRoot envId)
  | loadEnvSnapshot envId =>
      have captured : Unstale (loadEnvSnapshot db envId) := by
        unfold loadEnvSnapshot
        split
        · exact .error rfl
        · exact .ok _
      exact unstale_readOnly captured
  | recordJournal journal =>
      simp only [transaction]
      split
      · exact .ok _
      · rename_i e failed
        exact .error (unstale_journalInTx journal _ _ e failed)
  | createEnv env journal =>
      refine (unstale_validate env).bind fun _ _ => ?_
      have inserted : Unstale (insertEnv json db env.environmentId env) := by
        unfold insertEnv
        split
        · rename_i e failed
          exact .error (unstale_serialize _ _ e failed)
        · split
          · exact .error rfl
          · exact .ok _
      exact inserted.bind fun written _ => (unstale_journal? _ _ _).bind fun _ _ => .ok _
  | createBackup backup journal =>
      simp only [transaction, createBackup]
      split
      · exact .error rfl
      · split
        · exact .error rfl
        · exact (unstale_journal? _ _ _).bind fun _ _ => .ok _
  | deleteBackup envId id journal =>
      simp only [transaction, deleteBackup]
      split
      · exact (unstale_journal? _ _ _).bind fun _ _ => .ok _
      · exact .ok _
  | _ => cases bare

theorem unstale_updateEnv {env : Environment} {precondition : Precondition}
    {journal : Option (MutationJournal V B)}
    (meets : MeetsRow db env.environmentId precondition) :
    Unstale (execute json ext input db (.updateEnv env precondition journal)).1 := by
  refine unstale_execute ((unstale_updateEnvInTx meets).bind fun written _ => ?_)
  exact (unstale_journal? _ _ _).bind fun _ _ => .ok _

theorem unstale_updatePolicy {env : Environment} {precondition : Precondition}
    {artifact : RevenuePolicyArtifact} {trustRootPin : Option EnvRevision}
    {journal : Option (MutationJournal V B)}
    (meets : MeetsRow db env.environmentId precondition) :
    Unstale (execute json ext input db
      (.updateEnvWithRevenuePolicy env precondition artifact trustRootPin journal)).1 := by
  refine unstale_execute ((Unstale.ensure rfl).bind fun _ _ => ?_)
  refine (Unstale.ensure rfl).bind fun _ _ => ?_
  refine (Unstale.ensure rfl).bind fun _ _ => ?_
  have placed : MeetsRow (db.putPolicy (artifact.key env.environmentId) artifact)
      env.environmentId precondition := meets
  refine (unstale_updateEnvInTx placed).bind fun written _ => ?_
  exact (unstale_journal? _ _ _).bind fun _ _ => .ok _

theorem unstale_upsertTrustRoot {envId : EnvId} {doc : TrustRootDocument}
    {precondition : Option Precondition} {journal : Option (MutationJournal V B)}
    (meets : MeetsRoot db envId precondition) :
    Unstale (execute json ext input db (.upsertTrustRoot envId doc precondition journal)).1 := by
  refine unstale_execute ((unstale_liftSpec _).bind fun _ _ => ?_)
  refine (unstale_serialize _ _).bind fun data _ => ?_
  refine (unstale_casUpsert meets).bind fun generation _ => ?_
  exact (unstale_journal? _ _ _).bind fun _ _ => .ok _

end Calls

end GreenticDeployer.Store
