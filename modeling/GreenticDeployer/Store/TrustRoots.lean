import GreenticDeployer.Lib.Programs
import GreenticDeployer.Store.Sidecars

/-!
# The trust-root table

One statement of the store writes it. A row, once written, stays and counts its
writes, so an unpinned write that was refused for a row will find one ever after.
-/

set_option maxHeartbeats 200000

namespace GreenticDeployer.Store

open Spec Engine Lib

variable {V B : Type} {json : StoreJson V} {ext : Externals}

inductive RootWrite (json : StoreJson V) (db : Db V B) (call : StorageCall V B)
    (reply : call.Reply) (after : Db V B) : Prop
  | keep (same : after.trustRoots = db.trustRoots)
  | write {envId doc precondition journal data generation}
      (wrote : call = .upsertTrustRoot envId doc precondition journal)
      (committed : ∃ result, reply = .ok result)
      (encoded : json.trustRoot.toValue doc = .ok data)
      (cas : casUpsert (db.trustRoots.lookup envId) envId precondition (requireEnv db envId) =
        .ok generation)
      (schema : checkSchema SchemaVersion.trustRootV1 ⟨doc.schema⟩ = .ok ())
      (table : after.trustRoots = db.trustRoots.insert envId (docRow json data generation))

theorem execute_rootWrite (input : StoreInput) (db : Db V B) (call : StorageCall V B) :
    RootWrite json db call (execute json ext input db call).1
      (execute json ext input db call).2 := by
  rcases execute_cases json ext input db call with ⟨result, committed, replied⟩ | ⟨e, _, same⟩
  · obtain ⟨mid, journal, writes, wrote⟩ := transaction_writes committed
    have tables := journal?_sameTables wrote
    cases writes with
    | trustRoot encoded cas schema =>
        exact .write rfl ⟨result, replied⟩ encoded cas schema tables.trustRoots
    | _ => exact .keep tables.trustRoots
  · exact .keep (by rw [same])

theorem RootWrite.step {db after : Db V B} {call : StorageCall V B} {reply : call.Reply}
    (write : RootWrite json db call reply after) (envId : EnvId) :
    RowStep DocRow.generation (db.trustRoots.lookup envId) (after.trustRoots.lookup envId) := by
  cases write with
  | keep same =>
      rw [same]
      exact .refl _
  | write wrote committed encoded cas schema table =>
      rw [table]
      exact rowStep_insert (casUpsert_step cas rfl) envId

theorem store_keeps_trustRoot (db : Db V B) (calls : List (StoreInput × StorageCall V B))
    (envId : EnvId) (present : db.trustRoots.lookup envId ≠ none) :
    ((store json ext).run db calls).trustRoots.lookup envId ≠ none := by
  refine (store json ext).run_invariant (fun db => db.trustRoots.lookup envId ≠ none) ?_ db calls
    ((store json ext).admits_of_allowed (fun _ _ => trivial) _ _) present
  intro db action _ present
  exact ((execute_rootWrite action.1 db action.2).step envId).present present

theorem journal?_error {db : Db V B} {journal : Option (MutationJournal V B)}
    {auditCap : Option Nat} {now : Timestamp} :
    journal? db journal auditCap now ≠ .error .preconditionRequired := by
  cases journal with
  | none => simp [journal?]
  | some journal =>
      intro failed
      simp only [journal?, journalInTx] at failed
      split at failed
      · rename_i e refused
        cases failed
        unfold insertLedger at refused
        split at refused <;> cases refused
      split at failed
      · rename_i e refused
        cases failed
        simp only [appendAndPrune, appendAudit] at refused
        split at refused
        · rename_i full
          cases refused
          repeat' split at full
          all_goals cases full
        · split at refused <;> cases refused
      · cases failed

/-- An unpinned write is refused for want of a pin only where a row is. -/
theorem upsertTrustRoot_raced {input : StoreInput} {db : Db V B} {envId : EnvId}
    {doc : TrustRootDocument} {journal : Option (MutationJournal V B)}
    (raced : (execute json ext input db (.upsertTrustRoot envId doc none journal)).1 =
      .error .preconditionRequired) : db.trustRoots.lookup envId ≠ none := by
  intro absent
  have failed : upsertTrustRoot json db envId doc none journal input.auditCap input.now =
      .error .preconditionRequired := by
    unfold execute at raced
    split at raced
    · cases raced
    · rename_i e refused
      cases raced
      exact refused
  unfold upsertTrustRoot at failed
  rcases bind_error failed with refused | ⟨_, _, failed⟩
  · unfold liftSpec at refused
    split at refused <;> cases refused
  rcases bind_error failed with refused | ⟨data, _, failed⟩
  · unfold serializeForWrite at refused
    split at refused <;> cases refused
  rcases bind_error failed with refused | ⟨generation, _, failed⟩
  · rw [absent, casUpsert, requireEnv, ensure] at refused
    split at refused
    · cases refused
    · split at refused <;> cases refused
  rcases bind_error failed with refused | ⟨_, _, failed⟩
  · exact journal?_error refused
  · cases failed

end GreenticDeployer.Store
