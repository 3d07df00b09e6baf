import GreenticDeployer.Store.Effects

/-!
# The watermark of the audit log

A prune records the newest id it forgets. What each writer of the audit tables
does to the rows and to that record: the append, the prune, the replay of a
restore and the replay of an import.
-/

set_option maxHeartbeats 200000

namespace GreenticDeployer.Store

open Spec Lib

variable {V : Type}

/-- A watermark lies below every row its environment still has, and no higher
than the numbers handed out so far. -/
structure Below (log : AuditLog V) (envId : EnvId) (watermark : Int) : Prop where
  numbered : watermark ≤ log.sequence
  live : ∀ row ∈ log.rows, row.envId = envId → watermark < row.id

def Watermarked (state : AuditState V) : Prop :=
  ∀ envId live, state.retention.lookup envId = some live →
    Below state.log envId live.prunedThroughId

def Rises (before after : Table EnvId AuditRetention) : Prop :=
  ∀ envId live, before.lookup envId = some live →
    ∃ next, after.lookup envId = some next ∧ live.prunedThroughId ≤ next.prunedThroughId

theorem Rises.refl (retention : Table EnvId AuditRetention) : Rises retention retention :=
  fun _ live present => ⟨live, present, le_rfl⟩

theorem Rises.trans {a b c : Table EnvId AuditRetention} (first : Rises a b)
    (second : Rises b c) : Rises a c := by
  intro envId live present
  obtain ⟨middle, there, low⟩ := first envId live present
  obtain ⟨last, found, high⟩ := second envId middle there
  exact ⟨last, found, low.trans high⟩

/-- Writing one watermark, no lower than the one it replaces. -/
theorem Rises.insert {retention : Table EnvId AuditRetention} {envId : EnvId}
    {written : AuditRetention}
    (higher : ∀ live, retention.lookup envId = some live →
      live.prunedThroughId ≤ written.prunedThroughId) :
    Rises retention (retention.insert envId written) := by
  intro other live present
  rcases Table.lookup_insert_cases retention envId other written with same | ⟨rfl, found⟩
  · exact ⟨live, same.trans present, le_rfl⟩
  · exact ⟨written, found, higher live present⟩

structure Grown (log after : AuditLog V) (envId : EnvId) (bound : Int) : Prop where
  sequence : log.sequence ≤ after.sequence
  rows : ∀ row ∈ after.rows, row ∈ log.rows ∨ row.envId = envId ∧ bound < row.id

theorem Grown.refl (log : AuditLog V) (envId : EnvId) (bound : Int) : Grown log log envId bound :=
  ⟨le_rfl, fun _ member => .inl member⟩

theorem Grown.trans {a b c : AuditLog V} {envId : EnvId} {bound : Int}
    (first : Grown a b envId bound) (second : Grown b c envId bound) : Grown a c envId bound := by
  refine ⟨first.sequence.trans second.sequence, ?_⟩
  intro row member
  rcases second.rows row member with old | new
  · exact first.rows row old
  · exact .inr new

theorem Below.grown {log after : AuditLog V} {envId other : EnvId} {bound watermark : Int}
    (below : Below log other watermark) (grown : Grown log after envId bound)
    (low : other = envId → watermark ≤ bound) : Below after other watermark := by
  refine ⟨below.numbered.trans grown.sequence, ?_⟩
  intro row member own
  rcases grown.rows row member with old | ⟨named, above⟩
  · exact below.live row old own
  · exact (low (own.symm.trans named)).trans_lt above

theorem push_grown (log : AuditLog V) (envId : EnvId) (eventId : String)
    (recordedAt : Timestamp) (event : V) {bound : Int} (low : bound ≤ log.sequence) :
    Grown log (log.push envId eventId recordedAt event) envId bound := by
  refine ⟨Int.le_add_one le_rfl, ?_⟩
  intro row member
  rcases List.mem_append.mp member with old | new
  · exact .inl old
  · rw [List.mem_singleton.mp new]
    exact .inr ⟨rfl, Int.lt_add_one_of_le low⟩

theorem burn_grown (log : AuditLog V) (id : Int) (envId : EnvId) (bound : Int) :
    Grown log (log.burn id) envId bound :=
  ⟨le_max_left _ _, fun _ member => .inl member⟩

theorem place_grown (log : AuditLog V) (row : AuditRow V) {bound : Int} (high : bound < row.id) :
    Grown log (log.place row) row.envId bound := by
  refine ⟨le_max_left _ _, ?_⟩
  intro other member
  rcases List.mem_append.mp member with low | rest
  · exact .inl (List.mem_of_mem_filter low)
  · rcases List.mem_cons.mp rest with rfl | above
    · exact .inr ⟨rfl, high⟩
    · exact .inl (List.mem_of_mem_filter above)

theorem appendAudit_grown {log after : AuditLog V} {envId : EnvId} {eventId : String}
    {recordedAt : Timestamp} {event : V}
    (returned : appendAudit log envId eventId recordedAt event = .ok after) :
    Grown log after envId log.sequence := by
  unfold appendAudit at returned
  split at returned
  · cases returned
  · split at returned
    · cases returned
    · cases returned
      exact push_grown log envId eventId recordedAt event le_rfl

theorem Watermarked.grown {log after : AuditLog V} {retention : Table EnvId AuditRetention}
    {envId : EnvId} {bound : Int} (held : Watermarked ⟨log, retention⟩)
    (grown : Grown log after envId bound)
    (low : ∀ live, retention.lookup envId = some live → live.prunedThroughId ≤ bound) :
    Watermarked ⟨after, retention⟩ := by
  intro other live present
  refine (held other live present).grown grown ?_
  rintro rfl
  exact low live present

theorem pruneCutoff_row {log : AuditLog V} {envId : EnvId} {cap : Nat} {through : Int}
    (cut : pruneCutoff log envId cap = some through) :
    ∃ row ∈ log.rows, row.envId = envId ∧ row.id = through := by
  have member := List.mem_reverse.mp (List.mem_of_getElem? cut)
  obtain ⟨row, kept, rfl⟩ := List.mem_map.mp member
  obtain ⟨inLog, own⟩ := List.mem_filter.mp kept
  exact ⟨row, inLog, by simpa using own, rfl⟩

theorem pruneAuditLog_watermarked {state : AuditState V} (held : Watermarked state)
    (envId : EnvId) (cap : Nat) (now : Timestamp) :
    Watermarked (pruneAuditLog state envId cap now) ∧
      Rises state.retention (pruneAuditLog state envId cap now).retention := by
  unfold pruneAuditLog
  split
  · exact ⟨held, .refl _⟩
  · rename_i through cut
    obtain ⟨row, inLog, own, rfl⟩ := pruneCutoff_row cut
    refine ⟨?_, ?_⟩
    · refine Table.forall_insert ?_ ?_
      · intro other live present
        have below := held other live present
        exact ⟨below.numbered, fun kept member => below.live kept (List.mem_of_mem_filter member)⟩
      · refine ⟨state.log.covered row inLog, ?_⟩
        intro kept member named
        simpa [named] using (List.mem_filter.mp member).2
    · refine Rises.insert ?_
      intro live present
      exact le_of_lt ((held envId live present).live row inLog own)

theorem appendAndPrune_watermarked {state after : AuditState V} {envId : EnvId}
    {eventId : String} {event : V} {auditCap : Option Nat} {now : Timestamp}
    (held : Watermarked state)
    (returned : appendAndPrune state envId eventId event auditCap now = .ok after) :
    Watermarked after ∧ Rises state.retention after.retention := by
  unfold appendAndPrune at returned
  split at returned
  · cases returned
  · rename_i log appended
    have numbered : Watermarked ⟨log, state.retention⟩ :=
      held.grown (appendAudit_grown appended) fun live present =>
        (held envId live present).numbered
    split at returned
    · cases returned
      exact ⟨numbered, .refl _⟩
    · cases returned
      exact pruneAuditLog_watermarked numbered envId _ now

def Reached (retention : Table EnvId AuditRetention) (envId : EnvId)
    (captured : Option AuditRetention) : Prop :=
  ∀ watermark, captured = some watermark →
    ∃ live, retention.lookup envId = some live ∧
      watermark.prunedThroughId ≤ live.prunedThroughId

theorem Reached.rises {before after : Table EnvId AuditRetention} {envId : EnvId}
    {captured : Option AuditRetention} (reached : Reached before envId captured)
    (rises : Rises before after) : Reached after envId captured := by
  intro watermark some_captured
  obtain ⟨live, present, low⟩ := reached watermark some_captured
  obtain ⟨next, found, high⟩ := rises envId live present
  exact ⟨next, found, low.trans high⟩

theorem replayAuditEntry_grown (log : AuditLog V) (envId : EnvId) (entry : AuditEntry V)
    {bound : Int} (high : bound < entry.id) :
    Grown log (replayAuditEntry log envId entry) envId bound := by
  unfold replayAuditEntry
  split
  · exact burn_grown log entry.id envId bound
  · exact place_grown log ⟨entry, envId⟩ high

theorem replay_grown (envId : EnvId) {bound : Int} (entries : List (AuditEntry V))
    (high : ∀ entry ∈ entries, bound < entry.id) (log : AuditLog V) :
    Grown log (entries.foldl (fun log entry => replayAuditEntry log envId entry) log) envId
      bound := by
  induction entries generalizing log with
  | nil => exact .refl log envId bound
  | cons entry rest ih =>
      exact (replayAuditEntry_grown log envId entry (high entry List.mem_cons_self)).trans
        (ih (fun later member => high later (List.mem_cons_of_mem _ member)) _)

/-- A restore brings back only rows above the live watermark, and a captured
watermark it has reached moves nothing. -/
theorem replayAuditInTx_watermarked {state : AuditState V} {envId : EnvId}
    {auditLog : List (AuditEntry V)} {captured : Option AuditRetention}
    (held : Watermarked state) (reached : Reached state.retention envId captured) :
    Watermarked (replayAuditInTx state envId auditLog captured) ∧
      Rises state.retention (replayAuditInTx state envId auditLog captured).retention := by
  have eligible : ∀ (bound : Int), ∀ entry ∈ auditLog.filter fun entry => bound < entry.id,
      bound < entry.id := fun bound entry member => by simpa using (List.mem_filter.mp member).2
  cases present : state.retention.lookup envId with
  | none =>
      cases captured with
      | some watermark =>
          obtain ⟨live, found, _⟩ := reached watermark rfl
          rw [present] at found
          cases found
      | none =>
          simp only [replayAuditInTx, present]
          refine ⟨held.grown (replay_grown envId _ (eligible 0) state.log) ?_, .refl _⟩
          intro live found
          rw [present] at found
          cases found
  | some live =>
      have replayed : Watermarked ⟨_, state.retention⟩ :=
        held.grown (replay_grown envId _ (eligible live.prunedThroughId) state.log) fun other found => by
          rw [present] at found
          cases found
          exact le_rfl
      cases captured with
      | none =>
          simp only [replayAuditInTx, present]
          exact ⟨replayed, .refl _⟩
      | some watermark =>
          obtain ⟨other, found, low⟩ := reached watermark rfl
          rw [present] at found
          cases found
          simp only [replayAuditInTx, present, max_eq_left low]
          refine ⟨Table.forall_insert replayed (replayed envId live present), Rises.insert ?_⟩
          intro other found
          rw [present] at found
          cases found
          exact le_rfl

theorem importAuditEntry_grown {log after : AuditLog V} {envId : EnvId} {entry : AuditEntry V}
    {bound : Int} (low : bound ≤ log.sequence)
    (returned : importAuditEntry log envId entry = .ok after) : Grown log after envId bound := by
  unfold importAuditEntry at returned
  split at returned
  · cases returned
  · split at returned
    · cases returned
      exact burn_grown log _ envId bound
    · cases returned
      exact push_grown log envId _ _ _ low

/-- An import takes the captured watermark as it is, so the numbers it hands out
itself must already lie above it. -/
theorem importAudit_watermarked {state after : AuditState V} {envId : EnvId}
    {snapshot : EnvSnapshot V} (held : Watermarked state)
    (fits : ∀ captured, snapshot.auditRetention = some captured →
      Below state.log envId captured.prunedThroughId)
    (returned : importAudit state envId snapshot = .ok after) :
    Watermarked after ∧ Rises state.retention after.retention := by
  unfold importAudit at returned
  obtain ⟨log, imported, returned⟩ := bind_ok returned
  have grown : Grown state.log log envId state.log.sequence := by
    refine foldlM_invariant (fun log => Grown state.log log envId state.log.sequence) _ ?_ imported
      (.refl _ _ _)
    intro entry _ current next stepped so_far
    exact so_far.trans (importAuditEntry_grown so_far.sequence stepped)
  have numbered : Watermarked ⟨log, state.retention⟩ :=
    held.grown grown fun live present => (held envId live present).numbered
  split at returned
  · cases returned
    exact ⟨numbered, .refl _⟩
  · rename_i captured taken
    obtain ⟨_, fresh, returned⟩ := bind_ok returned
    cases returned
    have below := fits captured taken
    refine ⟨Table.forall_insert numbered (below.grown grown fun _ => below.numbered), ?_⟩
    refine Rises.insert ?_
    intro live present
    rw [AList.lookup_eq_none.mpr (ensure_ok fresh)] at present
    cases present

theorem reconcileAuditRetention_keeping {B : Type} {P : AuditState V → Prop} {db : Db V B}
    (prunes : ∀ state envId cap now, P state → P (pruneAuditLog state envId cap now))
    (held : P (auditState db)) (auditCap : Option Nat) (now : Timestamp) :
    P (auditState (reconcileAuditRetention db auditCap now)) := by
  cases auditCap with
  | none => exact held
  | some cap =>
      have swept : ∀ (envIds : List EnvId) (state : AuditState V), P state →
          P (envIds.foldl (fun state envId => pruneAuditLog state envId cap now) state) := by
        intro envIds
        induction envIds with
        | nil => exact fun _ held => held
        | cons envId rest ih => exact fun state held => ih _ (prunes state envId cap now held)
      exact swept _ _ held

theorem reconcileAuditRetention_watermarked {B : Type} {db : Db V B}
    (held : Watermarked (auditState db)) (auditCap : Option Nat) (now : Timestamp) :
    Watermarked (auditState (reconcileAuditRetention db auditCap now)) ∧
      Rises db.auditRetention (reconcileAuditRetention db auditCap now).auditRetention := by
  refine @reconcileAuditRetention_keeping _ _ (fun state => Watermarked state ∧
    Rises db.auditRetention state.retention) _ ?_ ⟨held, .refl _⟩ auditCap now
  rintro state envId cap now ⟨marked, rises⟩
  obtain ⟨pruned, more⟩ := pruneAuditLog_watermarked marked envId cap now
  exact ⟨pruned, rises.trans more⟩

end GreenticDeployer.Store
