import GreenticDeployer.Store.Effects

/-!
# The replay ledger

One row for each committed key. A row leaves only when its environment is over
the cap, and a row just committed is never the one to leave.
-/

set_option maxHeartbeats 200000

namespace GreenticDeployer.Store

open Spec Lib

variable {V B : Type}

def LedgerRow.key (row : LedgerRow B) : EnvId × String := (row.envId, row.idempotencyKey)

def KeysDistinct (ledger : List (LedgerRow B)) : Prop := (ledger.map LedgerRow.key).Nodup

def rowsOf (envId : EnvId) (ledger : List (LedgerRow B)) : Nat :=
  ledger.countP fun row => row.envId = envId

theorem isFor_iff (row : LedgerRow B) (envId : EnvId) (key : String) :
    row.isFor envId key = true ↔ row.key = (envId, key) := by
  simp [LedgerRow.isFor, LedgerRow.key]

theorem lookup_of_mem {ledger : List (LedgerRow B)} (distinct : KeysDistinct ledger)
    {row : LedgerRow B} (member : row ∈ ledger) {envId : EnvId} {key : String}
    (named : row.key = (envId, key)) :
    ledger.find? (fun row => row.isFor envId key) = some row := by
  induction ledger with
  | nil => cases member
  | cons first rest ih =>
      obtain ⟨fresh, distinctRest⟩ := List.nodup_cons.mp distinct
      rw [List.find?_cons]
      rcases List.mem_cons.mp member with rfl | later
      · rw [(isFor_iff row envId key).mpr named]
      · have other : first.isFor envId key = false := by
          rw [Bool.eq_false_iff]
          intro same
          refine fresh (List.mem_map.mpr ⟨row, later, ?_⟩)
          rw [named, (isFor_iff first envId key).mp same]
        rw [other]
        exact ih distinctRest later

theorem dropOldest_sublist (envId : EnvId) (excess : Nat) (rows : List (LedgerRow B)) :
    (dropOldest envId excess rows).Sublist rows := by
  fun_induction dropOldest envId excess rows with
  | case1 rows => exact .refl _
  | case2 => exact .refl _
  | case3 excess row rest own ih => exact ih.cons _
  | case4 excess row rest other ih => exact ih.cons_cons _

theorem dropOldest_append {envId : EnvId} {excess : Nat} {rows : List (LedgerRow B)}
    (enough : excess ≤ rowsOf envId rows) (newer : List (LedgerRow B)) :
    dropOldest envId excess (rows ++ newer) = dropOldest envId excess rows ++ newer := by
  fun_induction dropOldest envId excess rows with
  | case1 rows => simp [dropOldest]
  | case2 => simp [rowsOf] at enough
  | case3 excess row rest own ih =>
      have fewer : excess ≤ rowsOf envId rest := by
        simp only [rowsOf, List.countP_cons, own, decide_true, if_true] at enough ⊢
        omega
      simp only [List.cons_append, dropOldest, own, if_true]
      exact ih fewer
  | case4 excess row rest other ih =>
      have same : excess + 1 ≤ rowsOf envId rest := by
        simpa [rowsOf, List.countP_cons, other] using enough
      simp only [List.cons_append, dropOldest, other, if_false]
      exact congrArg (row :: ·) (ih same)

theorem evictLedger_newest (rows : List (LedgerRow B)) (row : LedgerRow B) :
    row ∈ evictLedger row.envId (rows ++ [row]) := by
  have enough : (rows ++ [row]).countP (fun other => other.envId = row.envId) -
      maxLedgerRowsPerEnv ≤ rowsOf row.envId rows := by
    simp only [rowsOf, List.countP_append, List.countP_singleton, decide_true, if_true,
      maxLedgerRowsPerEnv]
    omega
  rw [evictLedger, dropOldest_append enough]
  exact List.mem_append_right _ (List.mem_singleton.mpr rfl)

theorem insertLedger_ok {ledger after : List (LedgerRow B)} {journal : MutationJournal V B}
    (inserted : insertLedger ledger journal = .ok after) :
    (∀ row ∈ ledger, row.key ≠ (journal.envId, journal.idempotencyKey)) ∧
      after = evictLedger journal.envId (ledger ++ [journal.ledgerRow]) := by
  unfold insertLedger at inserted
  split at inserted
  · cases inserted
  · rename_i fresh
    refine ⟨?_, (Except.ok.inj inserted).symm⟩
    intro row member named
    refine fresh (List.any_eq_true.mpr ⟨row, member, ?_⟩)
    exact (isFor_iff row _ _).mpr named

theorem KeysDistinct.insertLedger {ledger after : List (LedgerRow B)}
    {journal : MutationJournal V B} (distinct : KeysDistinct ledger)
    (inserted : insertLedger ledger journal = .ok after) : KeysDistinct after := by
  obtain ⟨fresh, evicted⟩ := insertLedger_ok inserted
  have appended : KeysDistinct (ledger ++ [journal.ledgerRow]) := by
    simp only [KeysDistinct, List.map_append, List.map_cons, List.map_nil]
    refine List.nodup_append.mpr ⟨distinct, List.nodup_singleton _, ?_⟩
    intro key old other new
    obtain ⟨row, member, rfl⟩ := List.mem_map.mp old
    rw [List.mem_singleton.mp new]
    exact fresh row member
  rw [evicted]
  exact appended.sublist ((dropOldest_sublist _ _ _).map _)

end GreenticDeployer.Store
