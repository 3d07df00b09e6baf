import GreenticDeployer.Store.Watermark

/-!
# Captured rows and the live log

A replay puts back the captured rows that the live log has lost. No writer of the
audit tables loses one: a captured row is live, or the watermark says it is
forgotten and every row its environment still has came after it.
-/

set_option maxHeartbeats 200000

namespace GreenticDeployer.Store

open Spec Lib

variable {V B : Type}

/-- Where a captured row is: in the log, or below the watermark and all live rows
of its environment. -/
inductive Accounted (state : AuditState V) (envId : EnvId) (entry : AuditEntry V) : Prop
  | live (present : ⟨entry, envId⟩ ∈ state.log.rows)
  | forgotten {watermark : AuditRetention}
      (marked : state.retention.lookup envId = some watermark)
      (under : entry.id ≤ watermark.prunedThroughId) (below : Below state.log envId entry.id)

def Keeps (before after : AuditState V) : Prop :=
  ∀ envId entry, Accounted before envId entry → Accounted after envId entry

theorem Keeps.refl (state : AuditState V) : Keeps state state := fun _ _ accounted => accounted

theorem Keeps.trans {a b c : AuditState V} (first : Keeps a b) (second : Keeps b c) : Keeps a c :=
  fun envId entry accounted => second envId entry (first envId entry accounted)

/-- Growth keeps captured rows accounted for, where the new rows lie above what
was forgotten and no watermark falls. -/
theorem keeps_of_grown {log after : AuditLog V} {retention next : Table EnvId AuditRetention}
    {envId : EnvId} {bound : Int} (kept : log.rows ⊆ after.rows)
    (grown : Grown log after envId bound)
    (low : ∀ watermark, retention.lookup envId = some watermark →
      log.sequence ≤ bound ∨ watermark.prunedThroughId ≤ bound)
    (rises : Rises retention next) : Keeps ⟨log, retention⟩ ⟨after, next⟩ := by
  intro other entry accounted
  cases accounted with
  | live present => exact .live (kept present)
  | @forgotten watermark marked under below =>
      obtain ⟨raised, present, higher⟩ := rises other watermark marked
      refine .forgotten present (under.trans higher) (below.grown grown ?_)
      rintro rfl
      rcases low watermark marked with fresh | old
      · exact below.numbered.trans fresh
      · exact under.trans old

theorem appendAudit_rows {log after : AuditLog V} {envId : EnvId} {eventId : String}
    {recordedAt : Timestamp} {event : V}
    (returned : appendAudit log envId eventId recordedAt event = .ok after) :
    after.rows = log.rows ++ [⟨⟨log.sequence + 1, eventId, recordedAt, event⟩, envId⟩] := by
  unfold appendAudit at returned
  split at returned
  · cases returned
  · split at returned
    · cases returned
    · cases returned
      rfl

theorem pruneAuditLog_keeps (state : AuditState V) (envId : EnvId) (cap : Nat) (now : Timestamp) :
    Keeps state (pruneAuditLog state envId cap now) := by
  unfold pruneAuditLog
  split
  · exact .refl state
  rename_i through cut
  obtain ⟨row, inLog, own, rfl⟩ := pruneCutoff_row cut
  have cleared : ∀ kept ∈ (state.log.restrict fun r =>
      !decide (r.envId = envId ∧ r.id ≤ row.id)).rows, kept.envId = envId → row.id < kept.id := by
    intro kept member named
    simpa [named] using (List.mem_filter.mp member).2
  have stays : ∀ kept ∈ state.log.rows, (kept.envId = envId → row.id < kept.id) →
      kept ∈ (state.log.restrict fun r => !decide (r.envId = envId ∧ r.id ≤ row.id)).rows :=
    fun kept member outside => List.mem_filter.mpr ⟨member, by simpa [imp_iff_not_or] using outside⟩
  intro other entry accounted
  by_cases same : other = envId
  · subst same
    -- the cutoff is the id of a row that was live
    have below : entry.id ≤ row.id →
        Below (state.log.restrict fun r => !decide (r.envId = other ∧ r.id ≤ row.id)) other
          entry.id := fun under => ⟨under.trans (state.log.covered row inLog),
      fun kept member named => under.trans_lt (cleared kept member named)⟩
    cases accounted with
    | live present =>
        by_cases under : entry.id ≤ row.id
        · exact .forgotten (AList.lookup_insert _) under (below under)
        · exact .live (stays _ present fun _ => lt_of_not_ge under)
    | forgotten _ _ before =>
        have under := (before.live row inLog own).le
        exact .forgotten (AList.lookup_insert _) under (below under)
  · cases accounted with
    | live present => exact .live (stays _ present fun named => (same named).elim)
    | forgotten marked under below =>
        exact .forgotten ((AList.lookup_insert_ne same).trans marked) under
          ⟨below.numbered, fun kept member => below.live kept (List.mem_of_mem_filter member)⟩

theorem appendAndPrune_keeps {state after : AuditState V} {envId : EnvId} {eventId : String}
    {event : V} {auditCap : Option Nat} {now : Timestamp}
    (returned : appendAndPrune state envId eventId event auditCap now = .ok after) :
    Keeps state after := by
  unfold appendAndPrune at returned
  split at returned
  · cases returned
  · rename_i log appended
    have kept : state.log.rows ⊆ log.rows := by
      rw [appendAudit_rows appended]
      exact List.subset_append_left _ _
    have appends : Keeps state ⟨log, state.retention⟩ :=
      keeps_of_grown kept (appendAudit_grown appended) (fun _ _ => .inl le_rfl) (.refl _)
    split at returned
    · cases returned
      exact appends
    · cases returned
      exact appends.trans (pruneAuditLog_keeps _ envId _ now)

theorem reconcileAuditRetention_keeps (db : Db V B) (auditCap : Option Nat) (now : Timestamp) :
    Keeps (auditState db) (auditState (reconcileAuditRetention db auditCap now)) :=
  @reconcileAuditRetention_keeping _ _ (Keeps (auditState db)) _
    (fun state envId cap now kept => kept.trans (pruneAuditLog_keeps state envId cap now))
    (.refl _) auditCap now

theorem replayAuditEntry_rows (log : AuditLog V) (envId : EnvId) (entry : AuditEntry V) :
    log.rows ⊆ (replayAuditEntry log envId entry).rows := by
  unfold replayAuditEntry
  split
  · exact List.Subset.refl _
  · rename_i fresh
    intro row member
    have apart : row.id ≠ entry.id := by
      intro same
      exact fresh (.inr (List.any_eq_true.mpr ⟨row, member, by simp [same]⟩))
    rcases lt_or_gt_of_ne apart with lower | higher
    · exact List.mem_append_left _ (List.mem_filter.mpr ⟨member, by simpa using lower⟩)
    · exact List.mem_append_right _
        (List.mem_cons_of_mem _ (List.mem_filter.mpr ⟨member, by simpa using higher⟩))

theorem replayAuditInTx_rows (state : AuditState V) (envId : EnvId)
    (auditLog : List (AuditEntry V)) (captured : Option AuditRetention) :
    state.log.rows ⊆ (replayAuditInTx state envId auditLog captured).log.rows := by
  have grows : ∀ (entries : List (AuditEntry V)) (log : AuditLog V), log.rows ⊆
      (entries.foldl (fun log entry => replayAuditEntry log envId entry) log).rows := by
    intro entries
    induction entries with
    | nil => exact fun log => List.Subset.refl _
    | cons entry rest ih =>
        exact fun log => List.Subset.trans (replayAuditEntry_rows log envId entry) (ih _)
  exact grows _ _

def mergedRetention (live captured : Option AuditRetention) : Option AuditRetention :=
  match live, captured with
  | live, none => live
  | none, some captured => some captured
  | some live, some captured => some { captured with
      prunedThroughId := max live.prunedThroughId captured.prunedThroughId
      prunedTotal := max live.prunedTotal captured.prunedTotal }

theorem replayAuditInTx_retention (state : AuditState V) (envId : EnvId)
    (auditLog : List (AuditEntry V)) (captured : Option AuditRetention) :
    (replayAuditInTx state envId auditLog captured).retention.lookup envId =
      mergedRetention (state.retention.lookup envId) captured := by
  cases captured with
  | none =>
      cases present : state.retention.lookup envId <;>
        simp [replayAuditInTx, mergedRetention, present]
  | some watermark =>
      cases present : state.retention.lookup envId <;>
        simp [replayAuditInTx, mergedRetention, present]

theorem replayAuditInTx_rises (state : AuditState V) (envId : EnvId)
    (auditLog : List (AuditEntry V)) (captured : Option AuditRetention) :
    Rises state.retention (replayAuditInTx state envId auditLog captured).retention := by
  cases captured with
  | none => exact .refl _
  | some watermark =>
      apply Rises.insert
      intro live present
      simp only [present]
      exact le_max_left _ _

theorem replayAuditInTx_keeps (state : AuditState V) (envId : EnvId)
    (auditLog : List (AuditEntry V)) (captured : Option AuditRetention) :
    Keeps state (replayAuditInTx state envId auditLog captured) := by
  apply keeps_of_grown (replayAuditInTx_rows state envId auditLog captured)
    (replay_grown envId _ (fun _ member => of_decide_eq_true (List.mem_filter.mp member).2)
      state.log)
  · intro watermark present
    simp [present]
  · exact replayAuditInTx_rises state envId auditLog captured

theorem importAuditEntry_rows {log after : AuditLog V} {envId : EnvId} {entry : AuditEntry V}
    (returned : importAuditEntry log envId entry = .ok after) : log.rows ⊆ after.rows := by
  unfold importAuditEntry at returned
  split at returned
  · cases returned
  · split at returned
    · cases returned
      exact List.Subset.refl _
    · cases returned
      exact List.subset_append_left _ _

theorem importAudit_rows {state after : AuditState V} {envId : EnvId} {snapshot : EnvSnapshot V}
    (returned : importAudit state envId snapshot = .ok after) :
    state.log.rows ⊆ after.log.rows := by
  unfold importAudit at returned
  obtain ⟨log, imported, returned⟩ := bind_ok returned
  have kept : state.log.rows ⊆ log.rows := by
    refine foldlM_invariant (fun log => state.log.rows ⊆ log.rows) _ ?_ imported
      (List.Subset.refl _)
    intro entry _ current next stepped kept
    exact List.Subset.trans kept (importAuditEntry_rows stepped)
  split at returned
  · cases returned
    exact kept
  · obtain ⟨_, _, returned⟩ := bind_ok returned
    cases returned
    exact kept

theorem importAudit_keeps {state after : AuditState V} {envId : EnvId} {snapshot : EnvSnapshot V}
    (returned : importAudit state envId snapshot = .ok after) : Keeps state after := by
  unfold importAudit at returned
  obtain ⟨log, imported, returned⟩ := bind_ok returned
  have both : state.log.rows ⊆ log.rows ∧ Grown state.log log envId state.log.sequence := by
    refine foldlM_invariant (fun log => state.log.rows ⊆ log.rows ∧
      Grown state.log log envId state.log.sequence) _ ?_ imported
      ⟨List.Subset.refl _, .refl _ _ _⟩
    rintro entry _ current next stepped ⟨kept, grown⟩
    exact ⟨List.Subset.trans kept (importAuditEntry_rows stepped),
      grown.trans (importAuditEntry_grown grown.sequence stepped)⟩
  have keeps : ∀ next, Rises state.retention next → Keeps state ⟨log, next⟩ :=
    fun next rises => keeps_of_grown both.1 both.2 (fun _ _ => .inl le_rfl) rises
  split at returned
  · cases returned
    exact keeps _ (.refl _)
  · rename_i captured taken
    obtain ⟨_, fresh, returned⟩ := bind_ok returned
    cases returned
    apply keeps
    apply Rises.insert
    intro live present
    rw [AList.lookup_eq_none.mpr (ensure_ok fresh)] at present
    cases present

theorem burn_eq {log : AuditLog V} {id : Int} (numbered : id ≤ log.sequence) :
    log.burn id = log := by
  simp only [AuditLog.burn, max_eq_left numbered]

theorem mem_place {log : AuditLog V} {new : AuditRow V} (absent : ∀ row ∈ log.rows, row.id ≠ new.id)
    (row : AuditRow V) : row ∈ (log.place new).rows ↔ row = new ∨ row ∈ log.rows := by
  simp only [AuditLog.place, List.mem_append, List.mem_cons, List.mem_filter, decide_eq_true_eq]
  constructor
  · rintro (⟨member, -⟩ | rfl | ⟨member, -⟩)
    · exact .inr member
    · exact .inl rfl
    · exact .inr member
  · rintro (rfl | member)
    · exact .inr (.inl rfl)
    · rcases lt_or_gt_of_ne (absent row member) with lower | higher
      · exact .inl ⟨member, lower⟩
      · exact .inr (.inr ⟨member, higher⟩)

def missing (log : AuditLog V) (entries : List (AuditEntry V)) : List (AuditEntry V) :=
  entries.filter fun entry => log.rows.all fun row => row.id ≠ entry.id

theorem mem_missing {log : AuditLog V} {entries : List (AuditEntry V)} {entry : AuditEntry V} :
    entry ∈ missing log entries ↔ entry ∈ entries ∧ ∀ row ∈ log.rows, row.id ≠ entry.id := by
  simp [missing]

/-- A row of an entry's id is that entry; no row has the event of a missing one, and no two
missing ones share an id or an event. -/
structure Replayable (log : AuditLog V) (envId : EnvId) (entries : List (AuditEntry V)) : Prop where
  live : ∀ entry ∈ entries, entry ∉ missing log entries → (⟨entry, envId⟩ : AuditRow V) ∈ log.rows
  fresh : ∀ entry ∈ missing log entries, ∀ row ∈ log.rows, row.eventId ≠ entry.eventId
  apart : (missing log entries).Pairwise fun a b => a.id ≠ b.id ∧ a.eventId ≠ b.eventId

theorem replayAuditEntry_missing {log : AuditLog V} {envId : EnvId} {entry : AuditEntry V}
    {rest : List (AuditEntry V)} (replayable : Replayable log envId (entry :: rest))
    (lacks : ∀ row ∈ log.rows, row.id ≠ entry.id) :
    replayAuditEntry log envId entry = log.place ⟨entry, envId⟩ := by
  refine if_neg ?_
  simp only [AuditLog.hasEvent, List.any_eq_true, decide_eq_true_eq, not_or, not_exists, not_and]
  exact ⟨replayable.fresh entry (mem_missing.mpr ⟨List.mem_cons_self, lacks⟩), lacks⟩

theorem replayAuditEntry_live {log : AuditLog V} (envId : EnvId) {entry : AuditEntry V}
    {row : AuditRow V} (present : row ∈ log.rows) (same : row.id = entry.id) :
    replayAuditEntry log envId entry = log := by
  have taken : log.rows.any (fun row => row.id = entry.id) = true :=
    List.any_eq_true.mpr ⟨row, present, decide_eq_true same⟩
  rw [replayAuditEntry, if_pos (.inr taken), burn_eq (same ▸ log.covered row present)]

theorem Replayable.place {log : AuditLog V} {envId : EnvId} {entry : AuditEntry V}
    {rest : List (AuditEntry V)} (replayable : Replayable log envId (entry :: rest))
    (lacks : ∀ row ∈ log.rows, row.id ≠ entry.id) :
    Replayable (log.place ⟨entry, envId⟩) envId rest := by
  obtain ⟨live, fresh, apart⟩ := replayable
  have shape : missing log (entry :: rest) = entry :: missing log rest := by
    rw [missing, List.filter_cons_of_pos (by simpa using lacks)]
    rfl
  rw [shape] at live fresh apart
  obtain ⟨others, apart⟩ := List.pairwise_cons.mp apart
  have rows : ∀ row, row ∈ (log.place ⟨entry, envId⟩).rows ↔ row = ⟨entry, envId⟩ ∨ row ∈ log.rows :=
    mem_place lacks
  have fewer : (missing (log.place ⟨entry, envId⟩) rest).Sublist (missing log rest) := by
    refine List.monotone_filter_right rest fun other gone => ?_
    simp only [List.all_eq_true, decide_eq_true_eq] at gone ⊢
    exact fun row inside => gone row ((rows row).mpr (.inr inside))
  refine ⟨fun other member there => ?_, fun other gone row inside => ?_, apart.sublist fewer⟩
  · refine (rows _).mpr (.inr (live other (List.mem_cons_of_mem _ member) fun gone => there ?_))
    refine mem_missing.mpr ⟨member, fun row inside => ?_⟩
    have lost : other ∈ missing log rest := by
      rcases List.mem_cons.mp gone with rfl | later
      · exact mem_missing.mpr ⟨member, lacks⟩
      · exact later
    rcases (rows row).mp inside with rfl | old
    · exact (others other lost).1
    · exact (mem_missing.mp lost).2 row old
  · have lost := fewer.subset gone
    rcases (rows row).mp inside with rfl | old
    · exact (others other lost).2
    · exact fresh other (List.mem_cons_of_mem _ lost) row old

theorem Replayable.sublist {log : AuditLog V} {envId : EnvId} {entries some_ : List (AuditEntry V)}
    (replayable : Replayable log envId entries) (sub : some_.Sublist entries) :
    Replayable log envId some_ := by
  obtain ⟨live, fresh, apart⟩ := replayable
  have fewer : (missing log some_).Sublist (missing log entries) := sub.filter _
  refine ⟨fun entry member there => live entry (sub.subset member) fun gone => there ?_,
    fun entry gone => fresh entry (fewer.subset gone), apart.sublist fewer⟩
  exact mem_missing.mpr ⟨member, (mem_missing.mp gone).2⟩

theorem mem_replay {log : AuditLog V} {envId : EnvId} {entries : List (AuditEntry V)}
    (replayable : Replayable log envId entries) (row : AuditRow V) :
    row ∈ (entries.foldl (fun log entry => replayAuditEntry log envId entry) log).rows ↔
      row ∈ log.rows ∨ ∃ entry ∈ entries, row = ⟨entry, envId⟩ := by
  induction entries generalizing log with
  | nil => simp
  | cons entry rest ih =>
      rw [List.foldl_cons]
      by_cases lacks : ∀ row ∈ log.rows, row.id ≠ entry.id
      · rw [replayAuditEntry_missing replayable lacks, ih (replayable.place lacks),
          mem_place lacks]
        simp only [List.mem_cons, exists_eq_or_imp]
        tauto
      · have present := replayable.live entry List.mem_cons_self
          fun gone => lacks (mem_missing.mp gone).2
        rw [replayAuditEntry_live envId present rfl,
          ih (replayable.sublist (List.sublist_cons_self entry rest))]
        simp only [List.mem_cons, exists_eq_or_imp]
        constructor
        · tauto
        · rintro (old | rfl | later)
          · exact .inl old
          · exact .inl present
          · exact .inr later

theorem replay_settled {log : AuditLog V} {envId : EnvId} {entries : List (AuditEntry V)}
    (live : ∀ entry ∈ entries, (⟨entry, envId⟩ : AuditRow V) ∈ log.rows) :
    entries.foldl (fun log entry => replayAuditEntry log envId entry) log = log := by
  induction entries with
  | nil => rfl
  | cons entry rest ih =>
      rw [List.foldl_cons, replayAuditEntry_live envId (live entry List.mem_cons_self) rfl]
      exact ih fun later member => live later (List.mem_cons_of_mem _ member)

/-- The rows a journal appends to a log whose last id is `sequence`. -/
def journalRows (sequence : Int) (journal : Option (MutationJournal V B)) (now : Timestamp) :
    List (AuditRow V) :=
  match journal with
  | none => []
  | some journal =>
    [⟨⟨sequence + 1, journal.auditEventId, now, journal.auditEvent⟩, journal.envId⟩]

theorem journal?_audit {db after : Db V B} {journal : Option (MutationJournal V B)}
    {now : Timestamp} (returned : journal? db journal none now = .ok after) :
    after.auditLog.rows = db.auditLog.rows ++ journalRows db.auditLog.sequence journal now ∧
      after.auditRetention = db.auditRetention := by
  cases journal with
  | none =>
      cases returned
      simp [journalRows]
  | some journal =>
      obtain ⟨ledger, audit, _, appended, rfl⟩ := journalInTx_ok returned
      unfold appendAndPrune at appended
      split at appended
      · cases appended
      · rename_i log pushed
        cases appended
        exact ⟨appendAudit_rows pushed, rfl⟩

/-- A captured row the watermark of its environment does not cover. -/
def Remembered (db : Db V B) (envId : EnvId) (entry : AuditEntry V) : Prop :=
  ∀ live ∈ db.auditRetention.lookup envId, live.prunedThroughId < entry.id

instance (db : Db V B) (envId : EnvId) (entry : AuditEntry V) :
    Decidable (Remembered db envId entry) :=
  inferInstanceAs (Decidable (∀ live ∈ _, _))

def remembered (db : Db V B) (envId : EnvId) (snapshot : EnvSnapshot V) : List (AuditEntry V) :=
  snapshot.auditLog.filter fun entry => Remembered db envId entry

/-- Captured from the log of the same environment: ids are counted from 1, and a
remembered row that the log has lost meets no other row under its id or its event. -/
structure Compatible (db : Db V B) (envId : EnvId) (snapshot : EnvSnapshot V) : Prop where
  positive : ∀ entry ∈ missing db.auditLog (remembered db envId snapshot), 0 < entry.id
  replayable : Replayable db.auditLog envId (remembered db envId snapshot)

def Settled (db : Db V B) (envId : EnvId) (snapshot : EnvSnapshot V) : Prop :=
  ∀ entry ∈ snapshot.auditLog, Remembered db envId entry →
    (⟨entry, envId⟩ : AuditRow V) ∈ db.auditLog.rows

theorem Settled.compatible {db : Db V B} {envId : EnvId} {snapshot : EnvSnapshot V}
    (settled : Settled db envId snapshot) : Compatible db envId snapshot := by
  have live : ∀ entry ∈ remembered db envId snapshot,
      (⟨entry, envId⟩ : AuditRow V) ∈ db.auditLog.rows := fun entry member =>
    settled entry (List.mem_filter.mp member).1 (of_decide_eq_true (List.mem_filter.mp member).2)
  have none_ : missing db.auditLog (remembered db envId snapshot) = [] := by
    refine List.eq_nil_iff_forall_not_mem.mpr fun entry gone => ?_
    obtain ⟨member, lacks⟩ := mem_missing.mp gone
    exact lacks _ (live entry member) rfl
  refine ⟨?_, fun entry member _ => live entry member, ?_, ?_⟩
  · rw [none_]
    exact fun _ member => absurd member List.not_mem_nil
  · rw [none_]
    exact fun _ member => absurd member List.not_mem_nil
  · rw [none_]
    exact .nil

/-- What a restore does to the audit tables while no retention cap is set. -/
structure Merged (db after : Db V B) (envId : EnvId) (snapshot : EnvSnapshot V)
    (journal : Option (MutationJournal V B)) (now : Timestamp) : Prop where
  kept : ∀ row ∈ db.auditLog.rows, row ∈ after.auditLog.rows
  present : ∀ entry ∈ snapshot.auditLog, Remembered db envId entry →
    (⟨entry, envId⟩ : AuditRow V) ∈ after.auditLog.rows
  watermark : after.auditRetention.lookup envId =
    mergedRetention (db.auditRetention.lookup envId) snapshot.auditRetention
  added : ∃ sequence, ∀ row ∈ after.auditLog.rows, row ∈ db.auditLog.rows ∨
    (∃ entry ∈ snapshot.auditLog, Remembered db envId entry ∧ row = ⟨entry, envId⟩) ∨
      row ∈ journalRows sequence journal now

variable {json : StoreJson V} {ext : Externals} {db after : Db V B} {envId : EnvId}
variable {snapshot : EnvSnapshot V} {precondition : Precondition}
variable {journal : Option (MutationJournal V B)} {now : Timestamp} {revision : EnvRevision}

theorem restoreEnv_audit (restored : restoreEnv json ext db envId snapshot precondition journal none
      now = .ok (revision, after)) :
    let replayed := replayAuditInTx (auditState db) envId snapshot.auditLog snapshot.auditRetention
    after.auditLog.rows = replayed.log.rows ++ journalRows replayed.log.sequence journal now ∧
      after.auditRetention = replayed.retention := by
  obtain ⟨mid, writes, wrote⟩ : ∃ mid, Writes json ext ⟨none, now⟩ db
      (.restoreEnv envId snapshot precondition journal) mid journal ∧
      journal? mid journal none now = .ok after := restoreEnv_writes restored
  cases writes with
  | restore => exact journal?_audit wrote

/-- The captured rows a replay looks at. -/
def eligible (db : Db V B) (envId : EnvId) (snapshot : EnvSnapshot V) : List (AuditEntry V) :=
  (remembered db envId snapshot).filter fun entry =>
    envId ∈ db.auditRetention ∨ 0 < entry.id

theorem replayAuditInTx_log (db : Db V B) (envId : EnvId) (snapshot : EnvSnapshot V) :
    (replayAuditInTx (auditState db) envId snapshot.auditLog snapshot.auditRetention).log =
      (eligible db envId snapshot).foldl (fun log entry => replayAuditEntry log envId entry)
        db.auditLog := by
  have kept : ∀ entry : AuditEntry V, (envId ∈ db.auditRetention ∨ 0 < entry.id) ∧
      Remembered db envId entry ↔
        (db.auditRetention.lookup envId).elim 0 (·.prunedThroughId) < entry.id := by
    intro entry
    rw [Remembered, ← AList.lookup_isSome]
    cases db.auditRetention.lookup envId <;> simp
  have same : eligible db envId snapshot = snapshot.auditLog.filter fun entry =>
      (db.auditRetention.lookup envId).elim 0 (·.prunedThroughId) < entry.id := by
    rw [eligible, remembered, List.filter_filter]
    refine List.filter_congr fun entry _ => ?_
    rw [Bool.eq_iff_iff]
    simpa only [Bool.and_eq_true, decide_eq_true_eq] using kept entry
  rw [same]
  unfold replayAuditInTx
  cases retained : db.auditRetention.lookup envId <;> simp only [auditState, retained] <;> rfl

theorem mem_eligible {entry : AuditEntry V} : entry ∈ eligible db envId snapshot ↔
    (entry ∈ snapshot.auditLog ∧ Remembered db envId entry) ∧
      (envId ∈ db.auditRetention ∨ 0 < entry.id) := by
  simp only [eligible, remembered, List.mem_filter, decide_eq_true_eq]

theorem restoreEnv_merged (compatible : Compatible db envId snapshot)
    (restored : restoreEnv json ext db envId snapshot precondition journal none now =
      .ok (revision, after)) :
    Merged db after envId snapshot journal now ∧ Settled after envId snapshot := by
  obtain ⟨rows, retention⟩ := restoreEnv_audit restored
  rw [replayAuditInTx_log] at rows
  obtain ⟨log, replay⟩ : ∃ log, log = (eligible db envId snapshot).foldl
      (fun log entry => replayAuditEntry log envId entry) db.auditLog := ⟨_, rfl⟩
  rw [← replay] at rows
  have replayed : ∀ row, row ∈ log.rows ↔
      row ∈ db.auditLog.rows ∨ ∃ entry ∈ eligible db envId snapshot, row = ⟨entry, envId⟩ := by
    rw [replay]
    exact mem_replay (compatible.replayable.sublist List.filter_sublist)
  have kept : ∀ row ∈ log.rows, row ∈ after.auditLog.rows := by
    rw [rows]
    exact fun row member => List.mem_append_left _ member
  have present : ∀ entry ∈ snapshot.auditLog, Remembered db envId entry →
      (⟨entry, envId⟩ : AuditRow V) ∈ after.auditLog.rows := by
    intro entry member above
    have inside : entry ∈ remembered db envId snapshot :=
      List.mem_filter.mpr ⟨member, decide_eq_true above⟩
    refine kept _ ((replayed _).mpr ?_)
    by_cases gone : entry ∈ missing db.auditLog (remembered db envId snapshot)
    · exact .inr ⟨entry, mem_eligible.mpr ⟨⟨member, above⟩, .inr (compatible.positive entry gone)⟩,
        rfl⟩
    · exact .inl (compatible.replayable.live entry inside gone)
  refine ⟨⟨fun row old => kept row ((replayed row).mpr (.inl old)), present, ?_, log.sequence, ?_⟩,
    ?_⟩
  · rw [retention]
    exact replayAuditInTx_retention (auditState db) envId snapshot.auditLog snapshot.auditRetention
  · intro row member
    rw [rows] at member
    rcases List.mem_append.mp member with logged | journaled
    · rcases (replayed row).mp logged with old | ⟨entry, put, rfl⟩
      · exact .inl old
      · obtain ⟨⟨captured, above⟩, -⟩ := mem_eligible.mp put
        exact .inr (.inl ⟨entry, captured, above, rfl⟩)
    · exact .inr (.inr journaled)
  · intro entry member above
    refine present entry member fun live marked => ?_
    obtain ⟨raised, later, higher⟩ := replayAuditInTx_rises (auditState db) envId snapshot.auditLog
      snapshot.auditRetention envId live marked
    rw [← retention] at later
    exact higher.trans_lt (above raised later)

theorem restoreEnv_settled (settled : Settled db envId snapshot)
    (restored : restoreEnv json ext db envId snapshot precondition journal none now =
      .ok (revision, after)) :
    after.auditLog.rows = db.auditLog.rows ++ journalRows db.auditLog.sequence journal now := by
  obtain ⟨rows, -⟩ := restoreEnv_audit restored
  rw [replayAuditInTx_log, replay_settled] at rows
  · exact rows
  · intro entry member
    obtain ⟨⟨captured, above⟩, -⟩ := mem_eligible.mp member
    exact settled entry captured above

/-- A captured history of which nothing is lost. -/
def Retained (db : Db V B) (envId : EnvId) (snapshot : EnvSnapshot V) : Prop :=
  ∀ entry ∈ snapshot.auditLog, Accounted (auditState db) envId entry

theorem Retained.keeps (kept : Retained db envId snapshot)
    (keeps : Keeps (auditState db) (auditState after)) : Retained after envId snapshot :=
  fun entry member => keeps envId entry (kept entry member)

theorem Retained.settled (kept : Retained db envId snapshot) : Settled db envId snapshot := by
  intro entry member above
  cases kept entry member with
  | live present => exact present
  | forgotten marked under => exact absurd (above _ marked) (not_lt_of_ge under)

theorem loadEnvSnapshot_retained {db : Db V B} (envId : EnvId) (snapshot : EnvSnapshot V)
    (revision : EnvRevision) (returned : loadEnvSnapshot db envId = .ok (snapshot, revision)) :
    Retained db envId snapshot := by
  unfold loadEnvSnapshot at returned
  split at returned
  · cases returned
  · cases returned
    intro entry member
    obtain ⟨row, inside, rfl⟩ := List.mem_map.mp member
    obtain ⟨present, own⟩ := List.mem_filter.mp inside
    have named : row.envId = envId := of_decide_eq_true own
    subst named
    exact .live present

end GreenticDeployer.Store
