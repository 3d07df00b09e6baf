import GreenticDeployer.Store.AuditReplay

/-!
# Whose rows the audit log holds

No event is recorded twice, and each writer of the log adds rows of the
environment it writes for and of no other.
-/

set_option maxHeartbeats 200000

namespace GreenticDeployer.Store

open Spec Lib

variable {V B : Type}

/-- `event_id TEXT NOT NULL UNIQUE`. -/
def AuditLog.Distinct (log : AuditLog V) : Prop := (log.rows.map (·.eventId)).Nodup

theorem AuditLog.Distinct.restrict {log : AuditLog V} (distinct : log.Distinct)
    (keep : AuditRow V → Bool) : (log.restrict keep).Distinct :=
  distinct.sublist (List.filter_sublist.map _)

theorem AuditLog.Distinct.push {log : AuditLog V} (distinct : log.Distinct) {eventId : String}
    (fresh : log.hasEvent eventId = false) (envId : EnvId) (recordedAt : Timestamp) (event : V) :
    (log.push envId eventId recordedAt event).Distinct := by
  have apart : ∀ row ∈ log.rows, row.eventId ≠ eventId := by
    intro row member same
    have seen : log.hasEvent eventId = true :=
      List.any_eq_true.mpr ⟨row, member, by simp [same]⟩
    rw [fresh] at seen
    cases seen
  simp only [Distinct, AuditLog.push, List.map_append, List.map_cons, List.map_nil]
  refine List.nodup_append.mpr ⟨distinct, List.nodup_singleton _, ?_⟩
  intro one old other new
  obtain ⟨row, member, rfl⟩ := List.mem_map.mp old
  rw [List.mem_singleton.mp new]
  exact apart row member

theorem AuditLog.Distinct.place {log : AuditLog V} (distinct : log.Distinct) {row : AuditRow V}
    (fresh : log.hasEvent row.eventId = false) : (log.place row).Distinct := by
  have once : ∀ first ∈ log.rows, ∀ second ∈ log.rows, first.eventId = second.eventId →
      first = second := fun first one second other same =>
    List.inj_on_of_nodup_map distinct one other same
  have apart : ∀ other ∈ log.rows, other.eventId ≠ row.eventId := by
    intro other member same
    have seen : log.hasEvent row.eventId = true :=
      List.any_eq_true.mpr ⟨other, member, by simp [same]⟩
    rw [fresh] at seen
    cases seen
  have part : ∀ keep : AuditRow V → Bool, ((log.rows.filter keep).map (·.eventId)).Nodup :=
    fun keep => distinct.sublist (List.filter_sublist.map _)
  simp only [Distinct, AuditLog.place, List.map_append, List.map_cons]
  refine List.nodup_middle.mpr (List.nodup_cons.mpr ⟨?_, ?_⟩)
  · intro named
    rcases List.mem_append.mp named with low | high
    · obtain ⟨other, member, same⟩ := List.mem_map.mp low
      exact apart other (List.mem_of_mem_filter member) same
    · obtain ⟨other, member, same⟩ := List.mem_map.mp high
      exact apart other (List.mem_of_mem_filter member) same
  · refine List.nodup_append.mpr ⟨part _, part _, ?_⟩
    intro one low other high same
    obtain ⟨first, below, rfl⟩ := List.mem_map.mp low
    obtain ⟨second, above, rfl⟩ := List.mem_map.mp high
    obtain ⟨inLog, lower⟩ := List.mem_filter.mp below
    obtain ⟨inLogToo, higher⟩ := List.mem_filter.mp above
    obtain rfl := once first inLog second inLogToo same
    have := of_decide_eq_true lower
    have := of_decide_eq_true higher
    omega

theorem replayAuditEntry_distinct {log : AuditLog V} (distinct : log.Distinct) (envId : EnvId)
    (entry : AuditEntry V) : (replayAuditEntry log envId entry).Distinct := by
  unfold replayAuditEntry
  split
  · exact distinct
  · rename_i fresh
    exact distinct.place (Bool.eq_false_iff.mpr fun seen => fresh (.inl seen))

theorem replayAuditInTx_distinct {state : AuditState V} (distinct : state.log.Distinct)
    (envId : EnvId) (auditLog : List (AuditEntry V)) (captured : Option AuditRetention) :
    (replayAuditInTx state envId auditLog captured).log.Distinct := by
  have replayed : ∀ (entries : List (AuditEntry V)) (log : AuditLog V), log.Distinct →
      (entries.foldl (fun log entry => replayAuditEntry log envId entry) log).Distinct := by
    intro entries
    induction entries with
    | nil => exact fun _ held => held
    | cons entry rest ih => exact fun log held => ih _ (replayAuditEntry_distinct held envId entry)
  exact replayed _ _ distinct

theorem importAudit_distinct {state after : AuditState V} {envId : EnvId}
    {snapshot : EnvSnapshot V} (distinct : state.log.Distinct)
    (returned : importAudit state envId snapshot = .ok after) : after.log.Distinct := by
  unfold importAudit at returned
  obtain ⟨log, imported, returned⟩ := bind_ok returned
  have held : log.Distinct := by
    refine foldlM_invariant AuditLog.Distinct _ ?_ imported distinct
    intro entry _ current next stepped held
    unfold importAuditEntry at stepped
    split at stepped
    · cases stepped
    · split at stepped
      · cases stepped
        exact held
      · rename_i unseen
        cases stepped
        exact held.push (Bool.eq_false_iff.mpr unseen) envId _ _
  split at returned
  · cases returned
    exact held
  · obtain ⟨_, _, returned⟩ := bind_ok returned
    cases returned
    exact held

theorem pruneAuditLog_distinct {state : AuditState V} (distinct : state.log.Distinct)
    (envId : EnvId) (cap : Nat) (now : Timestamp) :
    (pruneAuditLog state envId cap now).log.Distinct := by
  unfold pruneAuditLog
  split
  · exact distinct
  · exact distinct.restrict _

theorem appendAndPrune_distinct {state after : AuditState V} {envId : EnvId} {eventId : String}
    {event : V} {auditCap : Option Nat} {now : Timestamp} (distinct : state.log.Distinct)
    (returned : appendAndPrune state envId eventId event auditCap now = .ok after) :
    after.log.Distinct := by
  unfold appendAndPrune at returned
  split at returned
  · cases returned
  · rename_i log appended
    have held : log.Distinct := by
      unfold appendAudit at appended
      split at appended
      · cases appended
      · split at appended
        · cases appended
        · rename_i unseen
          cases appended
          exact distinct.push (Bool.eq_false_iff.mpr unseen) envId now event
    split at returned
    · cases returned
      exact held
    · cases returned
      exact pruneAuditLog_distinct held envId _ now

theorem replayAuditEntry_own (log : AuditLog V) (envId : EnvId) (entry : AuditEntry V) :
    ∀ row ∈ (replayAuditEntry log envId entry).rows, row ∈ log.rows ∨ row.envId = envId := by
  unfold replayAuditEntry
  split
  · exact fun _ member => .inl member
  · intro row member
    rcases List.mem_append.mp member with low | high
    · exact .inl (List.mem_of_mem_filter low)
    · rcases List.mem_cons.mp high with rfl | above
      · exact .inr rfl
      · exact .inl (List.mem_of_mem_filter above)

theorem replayAuditInTx_own (state : AuditState V) (envId : EnvId)
    (auditLog : List (AuditEntry V)) (captured : Option AuditRetention) :
    ∀ row ∈ (replayAuditInTx state envId auditLog captured).log.rows,
      row ∈ state.log.rows ∨ row.envId = envId := by
  have replayed : ∀ (entries : List (AuditEntry V)) (log : AuditLog V),
      ∀ row ∈ (entries.foldl (fun log entry => replayAuditEntry log envId entry) log).rows,
        row ∈ log.rows ∨ row.envId = envId := by
    intro entries
    induction entries with
    | nil => exact fun _ _ member => .inl member
    | cons entry rest ih =>
        intro log row member
        rcases ih _ row member with earlier | own
        · exact replayAuditEntry_own log envId entry row earlier
        · exact .inr own
  exact replayed _ _

theorem importAudit_own {state after : AuditState V} {envId : EnvId} {snapshot : EnvSnapshot V}
    (returned : importAudit state envId snapshot = .ok after) :
    ∀ row ∈ after.log.rows, row ∈ state.log.rows ∨ row.envId = envId := by
  unfold importAudit at returned
  obtain ⟨log, imported, returned⟩ := bind_ok returned
  have own : ∀ row ∈ log.rows, row ∈ state.log.rows ∨ row.envId = envId := by
    refine foldlM_invariant (fun log => ∀ row ∈ log.rows, row ∈ state.log.rows ∨
      row.envId = envId) _ ?_ imported fun _ member => .inl member
    intro entry _ current next stepped held row member
    unfold importAuditEntry at stepped
    split at stepped
    · cases stepped
    · split at stepped
      · cases stepped
        exact held row member
      · cases stepped
        rcases List.mem_append.mp member with old | new
        · exact held row old
        · rw [List.mem_singleton.mp new]
          exact .inr rfl
  split at returned
  · cases returned
    exact own
  · obtain ⟨_, _, returned⟩ := bind_ok returned
    cases returned
    exact own

theorem pruneAuditLog_subset (state : AuditState V) (envId : EnvId) (cap : Nat)
    (now : Timestamp) : (pruneAuditLog state envId cap now).log.rows ⊆ state.log.rows := by
  unfold pruneAuditLog
  split
  · exact List.Subset.refl _
  · exact List.filter_subset_self _

theorem appendAndPrune_own {state after : AuditState V} {envId : EnvId} {eventId : String}
    {event : V} {auditCap : Option Nat} {now : Timestamp}
    (returned : appendAndPrune state envId eventId event auditCap now = .ok after) :
    ∀ row ∈ after.log.rows, row ∈ state.log.rows ∨
      row.envId = envId ∧ row.eventId = eventId ∧ row.event = event := by
  unfold appendAndPrune at returned
  split at returned
  · cases returned
  · rename_i log appended
    have grown : ∀ row ∈ log.rows, row ∈ state.log.rows ∨
        row.envId = envId ∧ row.eventId = eventId ∧ row.event = event := by
      intro row member
      rw [appendAudit_rows appended] at member
      rcases List.mem_append.mp member with old | new
      · exact .inl old
      · rw [List.mem_singleton.mp new]
        exact .inr ⟨rfl, rfl, rfl⟩
    split at returned
    · cases returned
      exact grown
    · cases returned
      exact fun row member => grown row (pruneAuditLog_subset _ envId _ now member)

end GreenticDeployer.Store
