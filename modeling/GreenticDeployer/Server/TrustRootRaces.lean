import GreenticDeployer.Server.Idempotency
import GreenticDeployer.Server.TrustRootRuns

/-!
# Concurrent edits of a trust root

Every addition that returned success is one of the committed edits, its own or
that of the earlier copy whose response it was given; the stored keys are those
edits in the order of their commits. The loop that converges two first writes
needs no more than two attempts, whatever the others do meanwhile.
-/

set_option maxHeartbeats 200000

namespace GreenticDeployer.Server

open Spec Engine Store Trust Lib

variable {V : Type} {cfg : Config V} {pool : RootPool V} {envId : EnvId}

theorem adds_rootEdit {request : Request V} {entry : TrustedKey}
    (asked : request.adds cfg = some (envId, entry)) :
    request.rootEdit cfg = some (.add entry) := by
  unfold Request.adds at asked
  unfold Request.rootEdit
  split at asked
  · obtain ⟨_, found, same⟩ := Option.map_eq_some_iff.mp asked
    cases same
    simp only [*]
    rfl
  · obtain ⟨_, found, same⟩ := Option.map_eq_some_iff.mp asked
    cases same
    simp only [*]
    rfl
  · cases asked

theorem committedEdits_append (left right : List (ServerAction V)) :
    committedEdits cfg envId pool (left ++ right) = committedEdits cfg envId pool left ++
      committedEdits cfg envId ((rootRuns cfg).run pool left) right := by
  induction left generalizing pool with
  | nil => rfl
  | cons action rest ih =>
      simp only [List.cons_append, committedEdits, ih, List.append_assoc]
      rfl

/-- The request whose commit wrote a ledger row, and what it added. -/
structure Origin (cfg : Config V) (start : RootPool V) (actions : List (ServerAction V))
    (envId : EnvId) (record : Record V) (first : Request V) : Prop where
  commits : ∃ earlier action later now call row, actions = earlier ++ action :: later ∧
    ((rootRuns cfg).run start earlier).acting action = some (first, now, call) ∧
    row ∉ ((rootRuns cfg).run start earlier).shared.db.idempotencyLedger ∧
    row ∈ ((rootRuns cfg).run start (earlier ++ [action])).shared.db.idempotencyLedger ∧
    row.envId = envId ∧ row.toStoredIdempotencyRecord = record
  fingerprint : record.requestFingerprint = first.head.fingerprint
  adds : ∀ entry, first.adds cfg = some (envId, entry) →
    .add entry ∈ committedEdits cfg envId start actions

theorem Origin.later {start : RootPool V} {actions : List (ServerAction V)} {record : Record V}
    {first : Request V} (origin : Origin cfg start actions envId record first)
    (action : ServerAction V) : Origin cfg start (actions ++ [action]) envId record first where
  commits := by
    obtain ⟨earlier, act, later, now, call, row, split, rest⟩ := origin.commits
    refine ⟨earlier, act, later ++ [action], now, call, row, ?_, rest⟩
    rw [split, List.append_assoc, List.cons_append]
  fingerprint := origin.fingerprint
  adds := by
    intro entry asked
    rw [committedEdits_append]
    exact List.mem_append_left _ (origin.adds entry asked)

theorem addition_commits {request : Request V} {ctx : Context} {k : Known V × RootKnown V}
    {now : Timestamp} {state : ServerState V} {call : Call V} {mid : Db V (ResponseBody V)}
    {journal : Journal V} {entry : TrustedKey} (free : k.1.committed = none)
    (permitted : rootPermits cfg request k.2 call)
    (drafts : Drafts cfg request ctx k.1 state.db call mid) (journaled : Journaled ctx journal)
    (learned : (learn k.1 call ((rootServer cfg).exec now state call).1).committed = some journal)
    (asked : request.adds cfg = some (journal.envId, entry)) :
    callEdit cfg journal.envId state (request, now, call) = some (.add entry) := by
  have never : request.adds cfg ≠ none := by
    rw [asked]
    exact Option.some_ne_none _
  cases drafts with
  | trustRoot known encoded schema =>
      rename_i doc precondition loaded data generation written
      have committed : ((rootServer cfg).exec now state
          (.upsertTrustRoot ctx.envId doc precondition written)).1.isOk = true := by
        generalize ((rootServer cfg).exec now state
          (.upsertTrustRoot ctx.envId doc precondition written)).1 = reply at learned
        cases reply with
        | ok revision => rfl
        | error e =>
            rw [learn_error, free] at learned
            cases learned
      simp only [callEdit, journaled.envId, committed, and_self, if_true]
      exact adds_rootEdit asked
  | policy => exact absurd permitted.1 never
  | _ => exact absurd permitted never

/-- What a call adds to the ledger: the row of its request. An addition gets one
only by its write of the trust root. -/
theorem ledger_call {request : Request V} {k : Known V × RootKnown V} {now : Timestamp}
    {state : ServerState V} {call : Call V} (permitted : bothPermit cfg request k call)
    {row : LedgerRow (ResponseBody V)}
    (member : row ∈ ((rootServer cfg).exec now state call).2.db.idempotencyLedger) :
    row ∈ state.db.idempotencyLedger ∨
    row ∉ state.db.idempotencyLedger ∧
      row.requestFingerprint = request.head.fingerprint ∧
      ∀ entry, request.adds cfg = some (row.envId, entry) →
        callEdit cfg row.envId state (request, now, call) = some (.add entry) := by
  obtain ⟨may, mayRoot⟩ := permitted
  change row ∈ (execute cfg.json cfg.ext ⟨state.auditCap, now⟩ state.db call).2.idempotencyLedger
    at member
  cases effect_of_permitted now state may with
  | quiet same kept =>
      rw [same] at member
      exact .inl member
  | denial refused appended same kept =>
      rw [same] at member
      exact .inl member
  | @commit ctx mid journal admitted drafts journaled wrote learned =>
      obtain ⟨ledger, audit, inserted, _, written⟩ := journalInTx_ok wrote
      obtain ⟨fresh, evicted⟩ := insertLedger_ok inserted
      rw [drafts_ledger drafts] at fresh evicted
      rw [written] at member
      change row ∈ ledger at member
      rw [evicted] at member
      have kept := (dropOldest_sublist _ _ _).subset member
      rcases List.mem_append.mp kept with old | new
      · exact .inl old
      · cases List.mem_singleton.mp new
        refine .inr ⟨fun old => fresh _ old rfl, ?_, ?_⟩
        · rw [← Request.admission_head admitted]
          exact journaled.fingerprint
        · intro entry asked
          exact addition_commits may.2.1 mayRoot drafts journaled learned asked

/-- A row that a lookup returns is in the ledger. -/
theorem learnRoot_found {k : RootKnown V} {now : Timestamp} {state : ServerState V} {call : Call V}
    {record : Record V} (found : (learnRoot k call ((rootServer cfg).exec now state call).1).found =
      some (envId, record)) :
    k.found = some (envId, record) ∨ ∃ row ∈ state.db.idempotencyLedger,
      row.envId = envId ∧ row.toStoredIdempotencyRecord = record := by
  by_cases looking : ∃ named key, call = .lookupIdempotency named key
  · obtain ⟨named, key, rfl⟩ := looking
    have replied : ((rootServer cfg).exec now state (.lookupIdempotency named key)).1 =
        .ok (lookupIdempotency state.db named key) := rfl
    rw [replied] at found
    unfold lookupIdempotency at found
    cases held : state.db.idempotencyLedger.find? fun row => row.isFor named key with
    | none =>
        rw [held] at found
        exact .inl found
    | some row =>
        rw [held] at found
        cases found
        have asked : row.isFor envId key = true := by simpa using List.find?_some held
        have named := (isFor_iff row envId key).mp asked
        exact .inr ⟨row, List.mem_of_find?_eq_some held, congrArg Prod.fst named, rfl⟩
  · generalize ((rootServer cfg).exec now state call).1 = reply at found
    cases call with
    | lookupIdempotency named key => exact absurd ⟨named, key, rfl⟩ looking
    | loadTrustRoot => cases reply <;> exact .inl found
    | loadEnv => cases reply <;> exact .inl found
    | upsertTrustRoot => cases reply <;> exact .inl found
    | _ => exact .inl found

theorem learnRoot_edited {request : Request V} {k : RootKnown V} {now : Timestamp}
    {state : ServerState V} {call : Call V} {edit : RootEdit}
    (edited : (learnRoot k call ((rootServer cfg).exec now state call).1).edited = some envId)
    (asked : request.rootEdit cfg = some edit) :
    k.edited = some envId ∨ callEdit cfg envId state (request, now, call) = some edit := by
  by_cases writing : ∃ named doc precondition journal,
      call = .upsertTrustRoot named doc precondition journal
  · obtain ⟨named, doc, precondition, journal, rfl⟩ := writing
    simp only [callEdit]
    generalize ((rootServer cfg).exec now state
      (.upsertTrustRoot named doc precondition journal)).1 = reply at edited
    cases reply with
    | error e => exact .inl edited
    | ok revision =>
        cases edited
        simp only [Except.isOk, Except.toBool, and_self, if_true]
        exact .inr asked
  · generalize ((rootServer cfg).exec now state call).1 = reply at edited
    cases call with
    | upsertTrustRoot named doc precondition journal =>
        exact absurd ⟨named, doc, precondition, journal, rfl⟩ writing
    | loadTrustRoot => cases reply <;> exact .inl edited
    | loadEnv => cases reply <;> exact .inl edited
    | lookupIdempotency => rcases reply with _ | ⟨_ | _⟩ <;> exact .inl edited
    | _ => exact .inl edited

/-- What the ledger and the requests hold of a run's past. -/
structure Traced (cfg : Config V) (start : RootPool V) (actions : List (ServerAction V)) :
    Prop where
  ledger : ∀ row ∈ ((rootRuns cfg).run start actions).shared.db.idempotencyLedger,
    ∃ first, Origin cfg start actions row.envId row.toStoredIdempotencyRecord first
  found : ∀ task ∈ ((rootRuns cfg).run start actions).tasks, ∀ envId record,
    task.known.2.found = some (envId, record) → ∃ first, Origin cfg start actions envId record first
  edited : ∀ task ∈ ((rootRuns cfg).run start actions).tasks, ∀ envId edit,
    task.known.2.edited = some envId → task.tag.rootEdit cfg = some edit →
    edit ∈ committedEdits cfg envId start actions

theorem run_snoc (start : RootPool V) (actions : List (ServerAction V)) (action : ServerAction V) :
    (rootRuns cfg).run start (actions ++ [action]) =
      (rootServer cfg).step ((rootRuns cfg).run start actions) action :=
  (rootRuns cfg).run_append start actions [action]

theorem committedEdits_snoc {start : RootPool V} {actions : List (ServerAction V)}
    {action : ServerAction V} {request : Request V} {now : Timestamp} {call : Call V}
    {edit : RootEdit}
    (acting : ((rootRuns cfg).run start actions).acting action = some (request, now, call))
    (committed : callEdit cfg envId ((rootRuns cfg).run start actions).shared
      (request, now, call) = some edit) :
    edit ∈ committedEdits cfg envId start (actions ++ [action]) := by
  rw [committedEdits_append]
  refine List.mem_append_right _ ?_
  simp only [committedEdits, acting, Option.bind_some, committed]
  exact List.mem_cons_self

/-- A step that leaves the ledger, and what each request has learned, in place. -/
theorem Traced.idle {start : RootPool V} {actions : List (ServerAction V)}
    {action : ServerAction V} (traced : Traced cfg start actions)
    (ledger : ((rootRuns cfg).run start (actions ++ [action])).shared.db.idempotencyLedger =
      ((rootRuns cfg).run start actions).shared.db.idempotencyLedger)
    (tasks : ∀ task ∈ ((rootRuns cfg).run start (actions ++ [action])).tasks,
      task ∈ ((rootRuns cfg).run start actions).tasks ∨ task.known.2 = RootKnown.nothing) :
    Traced cfg start (actions ++ [action]) where
  ledger := by
    intro row member
    rw [ledger] at member
    obtain ⟨first, origin⟩ := traced.ledger row member
    exact ⟨first, origin.later action⟩
  found := by
    intro task member envId record found
    rcases tasks task member with old | new
    · obtain ⟨first, origin⟩ := traced.found task old envId record found
      exact ⟨first, origin.later action⟩
    · rw [new] at found
      cases found
  edited := by
    intro task member envId edit edited asked
    rcases tasks task member with old | new
    · rw [committedEdits_append]
      exact List.mem_append_left _ (traced.edited task old envId edit edited asked)
    · rw [new] at edited
      cases edited

theorem Traced.turn {start : RootPool V} {actions : List (ServerAction V)} {index : Nat}
    {now : Timestamp} {task : RootTask V} {call : Call V}
    {next : call.Reply → Program (Call V) StorageCall.Reply (Except RemoteStoreError (Response V))}
    (traced : Traced cfg start actions) (permitted : bothPermit cfg task.tag task.known call)
    (found : ((rootRuns cfg).run start actions).tasks[index]? = some task)
    (program : task.program = .call call next)
    (stepped : (rootRuns cfg).run start (actions ++ [.advance index now]) =
      ⟨((rootServer cfg).exec now ((rootRuns cfg).run start actions).shared call).2,
        ((rootRuns cfg).run start actions).tasks.set index ⟨task.tag,
          (rootServer cfg).learn task.known call
            ((rootServer cfg).exec now ((rootRuns cfg).run start actions).shared call).1,
          next ((rootServer cfg).exec now ((rootRuns cfg).run start actions).shared call).1⟩⟩) :
    Traced cfg start (actions ++ [.advance index now]) := by
  have acting : ((rootRuns cfg).run start actions).acting (.advance index now) =
      some (task.tag, now, call) := acting_call found program
  have member := List.mem_of_getElem? found
  refine ⟨?_, ?_, ?_⟩
  · intro row held
    have after := held
    rw [stepped] at held
    rcases ledger_call permitted held with old | ⟨fresh, fingerprint, adds⟩
    · obtain ⟨first, origin⟩ := traced.ledger row old
      exact ⟨first, origin.later _⟩
    · refine ⟨task.tag, ⟨actions, _, [], now, call, row, rfl, acting, fresh, after, rfl, rfl⟩,
        fingerprint, ?_⟩
      intro entry asked
      exact committedEdits_snoc acting (adds entry asked)
  · intro other turned envId record learned
    rw [stepped] at turned
    rcases List.mem_or_eq_of_mem_set turned with old | rfl
    · obtain ⟨first, origin⟩ := traced.found other old envId record learned
      exact ⟨first, origin.later _⟩
    · rcases learnRoot_found learned with known | ⟨row, held, rfl, rfl⟩
      · obtain ⟨first, origin⟩ := traced.found task member envId record known
        exact ⟨first, origin.later _⟩
      · obtain ⟨first, origin⟩ := traced.ledger row held
        exact ⟨first, origin.later _⟩
  · intro other turned envId edit edited asked
    rw [stepped] at turned
    have earlier : ∀ known : RootTask V, known ∈ ((rootRuns cfg).run start actions).tasks →
        known.known.2.edited = some envId → known.tag.rootEdit cfg = some edit →
        edit ∈ committedEdits cfg envId start (actions ++ [.advance index now]) := by
      intro known old edited asked
      rw [committedEdits_append]
      exact List.mem_append_left _ (traced.edited known old envId edit edited asked)
    rcases List.mem_or_eq_of_mem_set turned with old | rfl
    · exact earlier other old edited asked
    · rcases learnRoot_edited edited asked with known | committed
      · exact earlier task member known asked
      · exact committedEdits_snoc acting committed

theorem rootSound_run (cfg : Config V) (maxRows : Option UInt32)
    (actions : List (ServerAction V)) :
    RootSound cfg ((rootRuns cfg).run (rootBoot maxRows) actions) :=
  (rootServer cfg).sound_run (rootServer_rules cfg) _ actions
    ((rootRuns cfg).admits_of_allowed (fun _ _ => trivial) _ _)
    ((rootServer cfg).sound_empty trivial)

theorem traced_run (cfg : Config V) (maxRows : Option UInt32) (actions : List (ServerAction V)) :
    Traced cfg (rootBoot maxRows) actions := by
  induction actions using List.reverseRecOn with
  | nil =>
      exact ⟨fun _ member => absurd member List.not_mem_nil,
        fun _ member => absurd member List.not_mem_nil,
        fun _ member => absurd member List.not_mem_nil⟩
  | append_singleton earlier action traced =>
      cases action with
      | arrive request =>
          refine traced.idle (by rw [run_snoc]; rfl) ?_
          intro task member
          rw [run_snoc] at member
          rcases List.mem_append.mp member with old | new
          · exact .inl old
          · cases List.mem_singleton.mp new
            exact .inr rfl
      | restart event =>
          refine traced.idle ?_ ?_
          · rw [run_snoc]
            obtain ⟨audit, swept⟩ := reconcileAuditRetention_audit
              ((rootRuns cfg).run (rootBoot maxRows) earlier).shared.db (auditCapOf event.1) event.2
            exact (congrArg Db.idempotencyLedger swept :)
          · intro task member
            rw [run_snoc] at member
            exact absurd member List.not_mem_nil
      | advance index now =>
          rcases (rootServer cfg).step_advance ((rootRuns cfg).run (rootBoot maxRows) earlier)
            index now with ⟨same, _⟩ | ⟨task, call, next, found, program, stepped⟩
          · refine traced.idle ?_ ?_
            · rw [run_snoc, same]
            · intro task member
              rw [run_snoc, same] at member
              exact .inl member
          · obtain ⟨permitted, _⟩ := (rootSound_run cfg maxRows earlier).acting found program
            exact traced.turn permitted found program ((run_snoc _ _ _).trans stepped)

theorem applyAdd_keeps {keys : List TrustedKey} {key : TrustedKey} (entry : TrustedKey)
    (member : key ∈ keys) :
    key ∈ applyAdd keys entry ∨ eqIgnoreAsciiCase key.keyId entry.keyId = true := by
  cases same : eqIgnoreAsciiCase key.keyId entry.keyId with
  | true => exact .inr rfl
  | false =>
      refine .inl (List.mem_append_left _ (List.mem_filter.mpr ⟨member, ?_⟩))
      simp only [same, Bool.not_false]

/-- An addition outlasts the edits after it, short of a removal of its key; a
later addition of the same key takes its place. -/
theorem foldl_keeps {entry : TrustedKey} (later : List RootEdit)
    (untouched : ∀ keyId, .remove keyId ∈ later → eqIgnoreAsciiCase entry.keyId keyId = false)
    {keys : List TrustedKey} {key : TrustedKey} (member : key ∈ keys)
    (same : eqIgnoreAsciiCase key.keyId entry.keyId = true) :
    ∃ kept ∈ later.foldl RootEdit.apply keys, eqIgnoreAsciiCase kept.keyId entry.keyId = true ∧
      (kept = key ∨ .add kept ∈ later) := by
  induction later generalizing keys key with
  | nil => exact ⟨key, member, same, .inl rfl⟩
  | cons edit rest ih =>
      have onward : ∀ keyId, .remove keyId ∈ rest → eqIgnoreAsciiCase entry.keyId keyId = false :=
        fun keyId later => untouched keyId (List.mem_cons_of_mem _ later)
      cases edit with
      | add other =>
          rcases applyAdd_keeps other member with stays | replaced
          · obtain ⟨kept, present, matching, whose⟩ := ih onward stays same
            exact ⟨kept, present, matching, whose.imp_right (List.mem_cons_of_mem _)⟩
          · have again : eqIgnoreAsciiCase other.keyId entry.keyId = true := by
              simp only [eqIgnoreAsciiCase, decide_eq_true_iff] at replaced same ⊢
              exact replaced.symm.trans same
            have appended : other ∈ RootEdit.apply keys (.add other) :=
              List.mem_append_right _ (List.mem_singleton.mpr rfl)
            obtain ⟨kept, present, matching, whose⟩ := ih onward appended again
            refine ⟨kept, present, matching, .inr ?_⟩
            rcases whose with rfl | later
            · exact List.mem_cons_self
            · exact List.mem_cons_of_mem _ later
      | remove keyId =>
          have spared := untouched keyId List.mem_cons_self
          have stays : key ∈ RootEdit.apply keys (.remove keyId) := by
            refine List.mem_filter.mpr ⟨member, ?_⟩
            simp only [eqIgnoreAsciiCase, decide_eq_true_iff, decide_eq_false_iff_not] at same spared
            simp only [eqIgnoreAsciiCase, Bool.not_eq_true', decide_eq_false_iff_not, same]
            exact spared
          obtain ⟨kept, present, matching, whose⟩ := ih onward stays same
          exact ⟨kept, present, matching, whose.imp_right (List.mem_cons_of_mem _)⟩

theorem persistTrustRootMutation_pinned (ctx : Context) (onRace : FirstWriteRace)
    (mutate : TrustRootDocument → TrustRootDocument)
    (prepare : Nat → TrustRootDocument → PreparedMutation V) (fuel : Nat)
    (loaded : Loaded TrustRootDocument) :
    (persistTrustRootMutation ctx onRace mutate prepare (fuel + 1) (some loaded)).run =
      .call (.upsertTrustRoot ctx.envId (mutate loaded.value)
          (some (.pinning loaded.revision.etag loaded.revision.generation))
          (some (prepare fuel (mutate loaded.value)).journal))
        fun reply => .done ((reply.mapError mapStorageError).map fun _ =>
          some (prepare fuel (mutate loaded.value))) := by
  refine congrArg (Program.call _) (funext fun reply => ?_)
  cases reply with
  | ok revision => rfl
  | error e => cases e <;> rfl

def amidOthers {α : Type} (cfg : Config V) (program : Handling V α) (db : Db V (ResponseBody V))
    (schedule : List (List (StoreInput × Call V) × StoreInput)) :
    Option (Except RemoteStoreError α × Db V (ResponseBody V)) :=
  program.run.amid (execute cfg.json cfg.ext) (store cfg.json cfg.ext).run db schedule

theorem loadTrustRoot_present {input : StoreInput} {db : Db V (ResponseBody V)}
    (present : db.trustRoots.lookup envId ≠ none) :
    (execute cfg.json cfg.ext input db (.loadTrustRoot envId)).1 ≠ .ok none := by
  intro replied
  have returned : Store.loadTrustRoot cfg.json db envId = .ok none := by
    rcases execute_cases cfg.json cfg.ext input db (.loadTrustRoot envId) with
      ⟨result, done, same⟩ | ⟨e, failed, _⟩
    · cases replied.symm.trans same
      exact (readOnly_ok done).1
    · cases replied.symm.trans failed
  unfold Store.loadTrustRoot at returned
  split at returned
  · rename_i absent
    exact present absent
  · obtain ⟨_, _, returned⟩ := bind_ok returned
    obtain ⟨_, _, returned⟩ := bind_ok returned
    obtain ⟨_, _, returned⟩ := bind_ok returned
    cases returned

/-- After a lost first write a reload finds the row, whatever happens between. -/
theorem reload_present {input again : StoreInput} {db : Db V (ResponseBody V)}
    {doc : TrustRootDocument} {journal : Option (Journal V)}
    (others : List (StoreInput × Call V))
    (raced : (execute cfg.json cfg.ext input db (.upsertTrustRoot envId doc none journal)).1 =
      .error .preconditionRequired) :
    (execute cfg.json cfg.ext again ((store cfg.json cfg.ext).run
      (execute cfg.json cfg.ext input db (.upsertTrustRoot envId doc none journal)).2 others)
      (.loadTrustRoot envId)).1 ≠ .ok none := by
  refine loadTrustRoot_present (store_keeps_trustRoot _ others envId ?_)
  exact ((execute_rootWrite input db _).step envId).present (upsertTrustRoot_raced raced)

theorem persistTrustRootMutation_unpinned (ctx : Context) (onRace : FirstWriteRace)
    (mutate : TrustRootDocument → TrustRootDocument)
    (prepare : Nat → TrustRootDocument → PreparedMutation V) (fuel : Nat) :
    (persistTrustRootMutation ctx onRace mutate prepare (fuel + 1) none).run =
      .call (.upsertTrustRoot ctx.envId (mutate (v1 [])) none
          (some (prepare fuel (mutate (v1 []))).journal))
        fun reply => match reply, onRace with
          | .ok _, _ => .done (.ok (some (prepare fuel (mutate (v1 [])))))
          | .error .preconditionRequired, .noOp => .done (.ok none)
          | .error .preconditionRequired, .retry => .call (.loadTrustRoot ctx.envId) fun reload =>
            match reload with
            | .ok reloaded => (persistTrustRootMutation ctx .retry mutate prepare fuel reloaded).run
            | .error e => .done (.error (loadStorageError e))
          | .error e, _ => .done (.error (mapStorageError e)) := by
  refine congrArg (Program.call _) (funext fun reply => ?_)
  cases reply with
  | ok revision => rfl
  | error e =>
      cases e with
      | preconditionRequired =>
          cases onRace with
          | noOp => rfl
          | retry =>
              refine congrArg (Program.call _) (funext fun reload => ?_)
              cases reload <;> rfl
      | _ => rfl

section Attempts

variable (ctx : Context) (mutate : TrustRootDocument → TrustRootDocument)
variable {prepare prepare' : Nat → TrustRootDocument → PreparedMutation V} {fuel fuel' : Nat}

theorem unpinned_cases (onRace : FirstWriteRace) (db : Db V (ResponseBody V))
    (others meanwhile : List (StoreInput × Call V)) (input again : StoreInput)
    (rest : List (List (StoreInput × Call V) × StoreInput))
    (same : prepare' (fuel' + 1) = prepare (fuel + 1)) :
    (∃ outcome,
      amidOthers cfg (persistTrustRootMutation ctx onRace mutate prepare (fuel + 2) none) db
        ((others, input) :: (meanwhile, again) :: rest) = some outcome ∧
      amidOthers cfg (persistTrustRootMutation ctx onRace mutate prepare' (fuel' + 2) none) db
        ((others, input) :: (meanwhile, again) :: rest) = some outcome) ∨
    ∃ loaded after,
      amidOthers cfg (persistTrustRootMutation ctx onRace mutate prepare (fuel + 2) none) db
        ((others, input) :: (meanwhile, again) :: rest) =
        amidOthers cfg (persistTrustRootMutation ctx .retry mutate prepare (fuel + 1)
          (some loaded)) after rest ∧
      amidOthers cfg (persistTrustRootMutation ctx onRace mutate prepare' (fuel' + 2) none) db
        ((others, input) :: (meanwhile, again) :: rest) =
        amidOthers cfg (persistTrustRootMutation ctx .retry mutate prepare' (fuel' + 1)
          (some loaded)) after rest := by
  simp only [amidOthers, persistTrustRootMutation_unpinned]
  rw [same]
  simp only [Program.amid]
  have reload : (execute cfg.json cfg.ext input ((store cfg.json cfg.ext).run db others)
      (.upsertTrustRoot ctx.envId (mutate (v1 [])) none
        (some (prepare (fuel + 1) (mutate (v1 []))).journal))).1 = .error .preconditionRequired →
      (execute cfg.json cfg.ext again ((store cfg.json cfg.ext).run
        (execute cfg.json cfg.ext input ((store cfg.json cfg.ext).run db others)
          (.upsertTrustRoot ctx.envId (mutate (v1 [])) none
            (some (prepare (fuel + 1) (mutate (v1 []))).journal))).2 meanwhile)
        (.loadTrustRoot ctx.envId)).1 ≠ .ok none := reload_present meanwhile
  generalize execute cfg.json cfg.ext input ((store cfg.json cfg.ext).run db others)
    (.upsertTrustRoot ctx.envId (mutate (v1 [])) none
      (some (prepare (fuel + 1) (mutate (v1 []))).journal)) = outcome at reload ⊢
  obtain ⟨reply, after⟩ := outcome
  cases reply with
  | ok revision => exact .inl ⟨_, rfl, rfl⟩
  | error e =>
      cases e with
      | preconditionRequired =>
          cases onRace with
          | noOp => exact .inl ⟨_, rfl, rfl⟩
          | retry =>
              have present := reload rfl
              dsimp only [Program.amid]
              generalize execute cfg.json cfg.ext again ((store cfg.json cfg.ext).run after
                meanwhile) (.loadTrustRoot ctx.envId) = reloaded at present ⊢
              obtain ⟨reply, final⟩ := reloaded
              rcases reply with e | ⟨_ | loaded⟩
              · exact .inl ⟨_, rfl, rfl⟩
              · exact absurd rfl present
              · exact .inr ⟨loaded, final, rfl, rfl⟩
      | _ => exact .inl ⟨_, rfl, rfl⟩

theorem pinned_ends (onRace : FirstWriteRace) (loaded : Loaded TrustRootDocument)
    (db : Db V (ResponseBody V)) (turn : List (StoreInput × Call V) × StoreInput)
    (rest : List (List (StoreInput × Call V) × StoreInput)) (same : prepare' fuel' = prepare fuel) :
    ∃ outcome,
      amidOthers cfg (persistTrustRootMutation ctx onRace mutate prepare (fuel + 1) (some loaded))
        db (turn :: rest) = some outcome ∧
      amidOthers cfg (persistTrustRootMutation ctx onRace mutate prepare' (fuel' + 1)
        (some loaded)) db (turn :: rest) = some outcome := by
  have agree : (persistTrustRootMutation ctx onRace mutate prepare' (fuel' + 1) (some loaded)).run =
      (persistTrustRootMutation ctx onRace mutate prepare (fuel + 1) (some loaded)).run := by
    rw [persistTrustRootMutation_pinned, persistTrustRootMutation_pinned, same]
  rw [amidOthers, amidOthers, agree, persistTrustRootMutation_pinned]
  exact ⟨_, rfl, rfl⟩

/-- Three calls, two of them writes, end the loop. Its outcome is the same for
every number of attempts it is given beyond the two. -/
theorem persistTrustRootMutation_ends (onRace : FirstWriteRace)
    (current : Option (Loaded TrustRootDocument)) (db : Db V (ResponseBody V))
    (first second third : List (StoreInput × Call V) × StoreInput)
    (rest : List (List (StoreInput × Call V) × StoreInput))
    (sameFirst : prepare' (fuel' + 1) = prepare (fuel + 1)) (sameLast : prepare' fuel' = prepare fuel) :
    ∃ outcome,
      amidOthers cfg (persistTrustRootMutation ctx onRace mutate prepare (fuel + 2) current) db
        (first :: second :: third :: rest) = some outcome ∧
      amidOthers cfg (persistTrustRootMutation ctx onRace mutate prepare' (fuel' + 2) current) db
        (first :: second :: third :: rest) = some outcome := by
  cases current with
  | some loaded => exact pinned_ends ctx mutate onRace loaded db first _ sameFirst
  | none =>
      rcases unpinned_cases ctx mutate onRace db first.1 second.1 first.2 second.2 (third :: rest)
        sameFirst with ended | ⟨loaded, after, onward, onward'⟩
      · exact ended
      · obtain ⟨outcome, ended, ended'⟩ := pinned_ends ctx mutate .retry loaded after third rest sameLast
        exact ⟨outcome, onward.trans ended, onward'.trans ended'⟩

end Attempts

/-- Concurrent edits of a trust root. In every run of the server, whatever its
interleaving, the stored keys are the committed edits applied one after the other
to the empty list, so none overwrites another. Every addition that returned
success is among them: by its own write, or, where it was answered from the
ledger, by that of the request with the same fingerprint whose response it got.
An addition stays until a removal of its key is committed after it. And the loop
that persists an edit ends within two writes and the reload between them. -/
theorem trust_root_race (cfg : Config V) (maxRows : Option UInt32)
    (actions : List (ServerAction V)) :
    (∀ envId, storedKeys cfg ((rootRuns cfg).run (rootBoot maxRows) actions).shared.db envId =
      (committedEdits cfg envId (rootBoot maxRows) actions).foldl RootEdit.apply []) ∧
    (∀ task ∈ ((rootRuns cfg).run (rootBoot maxRows) actions).tasks, ∀ envId entry response,
      task.tag.adds cfg = some (envId, entry) → task.program = .done (.ok response) →
      .add entry ∈ committedEdits cfg envId (rootBoot maxRows) actions ∨
      ∃ record first, response = replay record ∧
        first.head.fingerprint = task.tag.head.fingerprint ∧
        Origin cfg (rootBoot maxRows) actions envId record first) ∧
    (∀ envId earlier entry later,
      committedEdits cfg envId (rootBoot maxRows) actions = earlier ++ .add entry :: later →
      (∀ keyId, .remove keyId ∈ later → eqIgnoreAsciiCase entry.keyId keyId = false) →
      ∃ key ∈ storedKeys cfg ((rootRuns cfg).run (rootBoot maxRows) actions).shared.db envId,
        eqIgnoreAsciiCase key.keyId entry.keyId = true ∧ (key = entry ∨ .add key ∈ later)) ∧
    ∀ (ctx : Context) (onRace : FirstWriteRace) (mutate : TrustRootDocument → TrustRootDocument)
      (prepare : Nat → TrustRootDocument → PreparedMutation V) (fuel : Nat)
      (current : Option (Loaded TrustRootDocument)) (db : Db V (ResponseBody V))
      (first second third : List (StoreInput × Call V) × StoreInput)
      (rest : List (List (StoreInput × Call V) × StoreInput)),
      ∃ outcome,
        amidOthers cfg (persistTrustRootMutation ctx onRace mutate prepare (fuel + 2) current) db
          (first :: second :: third :: rest) = some outcome ∧
        amidOthers cfg (persistTrustRootMutation ctx onRace mutate
          (fun attempt => prepare (fuel + attempt)) 2 current) db
          (first :: second :: third :: rest) = some outcome := by
  have stored : ∀ envId,
      storedKeys cfg ((rootRuns cfg).run (rootBoot maxRows) actions).shared.db envId =
        (committedEdits cfg envId (rootBoot maxRows) actions).foldl RootEdit.apply [] :=
    fun envId => storedKeys_run actions ((rootServer cfg).sound_empty trivial)
  refine ⟨stored, ?_, ?_, ?_⟩
  · intro task member envId entry response asked finished
    have traced := traced_run cfg maxRows actions
    have ended := (rootSound_run cfg maxRows actions).obeys task member
    rw [finished] at ended
    rcases ended.2 response envId entry rfl asked with edited | ⟨record, found, same, rfl⟩
    · exact .inl (traced.edited task member envId (.add entry) edited (adds_rootEdit asked))
    · obtain ⟨first, origin⟩ := traced.found task member envId record found
      exact .inr ⟨record, first, rfl, origin.fingerprint.symm.trans same, origin⟩
  · intro envId earlier entry later edits untouched
    rw [stored, edits, List.foldl_append]
    refine foldl_keeps later untouched ?_ ?_
    · exact List.mem_append_right _ (List.mem_singleton.mpr rfl)
    · simp only [eqIgnoreAsciiCase, decide_eq_true_iff]
  · intro ctx onRace mutate prepare fuel current db first second third rest
    exact persistTrustRootMutation_ends ctx mutate onRace current db first second third rest rfl rfl

/-- Two additions to an environment without a trust root, both past their reading
when the first one writes. -/
def racedAdditions : List (ServerAction PlainValue) :=
  served 0 (demoRequest none "a" demoCreate) ++
    [.arrive (demoRequest none "b" (.addTrustedKey (.ok ⟨"local"⟩) ⟨"one", "one"⟩)),
      .arrive (demoRequest none "c" (.addTrustedKey (.ok ⟨"local"⟩) ⟨"two", "two"⟩))] ++
    turns 1 3 ++ turns 2 3 ++ turns 1 1 ++ turns 2 3

example : (storedKeys (demoConfig .openDev) ((rootRuns (demoConfig .openDev)).run (rootBoot none)
    racedAdditions).shared.db ⟨"local"⟩).map TrustedKey.keyId = ["one", "two"] := by
  decide

end GreenticDeployer.Server
