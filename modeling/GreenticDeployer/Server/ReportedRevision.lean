import GreenticDeployer.Server.Replies
import GreenticDeployer.Server.HandlerCalls
import GreenticDeployer.Server.Retention

/-!
# The revision an import or a restore reports

Both answer with the etag of the document they are about to write, and beside it
with the digest a manifest recorded. The first is the digest of the row the store
then commits. The second is what the backup was captured at, or whatever the
artifact says: nothing compares it with the document.
-/

set_option maxHeartbeats 200000

namespace GreenticDeployer.Server

open Spec Engine Store Trust Lib

variable {V : Type} {cfg : Config V} {request : Request V} {ctx : Context} {k : Known V}
variable {head : Head} {db mid : Db V (ResponseBody V)} {call : Call V}

/-- `ImportOutcome::etag` and `RestoreOutcome::etag`, of the recorded digest. -/
def MutationResult.etag : MutationResult → Option StateEtag
  | .imported _ integrity => some (.fromIntegrity integrity)
  | .restored _ integrity => some (.fromIntegrity integrity)
  | _ => none

/-- The etags a client reads off a response: of its envelope, and of its outcome. -/
def ResponseBody.etags : ResponseBody V → List StateEtag
  | .envelope success => success.etag :: success.result.etag.toList
  | _ => []

theorem etags_flipMarker (body : ResponseBody V) : body.flipMarker.etags = body.etags := by
  cases body <;> rfl

/-- The requests that bring a document along. -/
def Mutation.brings : Mutation V → Bool
  | .importEnvironment .. => true
  | .restoreEnvironment .. => true
  | _ => false

def Request.brings (request : Request V) : Bool :=
  match request.route with
  | .mutate mutation => mutation.brings
  | .exportBackup .. => false

/-- A manifest that records the digest of its snapshot's document, as the store would
write that document. -/
def Attests (cfg : Config V) (manifest : BackupManifest) (state : V) : Prop :=
  ∃ snapshot env data, cfg.json.snapshot.fromValue state = .ok snapshot ∧
    cfg.json.environment.fromValue snapshot.environment = .ok env ∧
    cfg.json.environment.toValue env = .ok data ∧
    manifest.integrity.digest = cfg.json.sha256Of data

theorem attests_iff {manifest : BackupManifest} {state data : V} {snapshot : EnvSnapshot V}
    {env : Environment} (unpacked : cfg.json.snapshot.fromValue state = .ok snapshot)
    (decoded : cfg.json.environment.fromValue snapshot.environment = .ok env)
    (encoded : cfg.json.environment.toValue env = .ok data) :
    Attests cfg manifest state ↔ manifest.integrity.digest = cfg.json.sha256Of data := by
  constructor
  · rintro ⟨other, read, written, opened, found, made, recorded⟩
    cases unpacked.symm.trans opened
    cases decoded.symm.trans found
    cases encoded.symm.trans made
    exact recorded
  · intro recorded
    exact ⟨snapshot, env, data, unpacked, decoded, encoded, recorded⟩

/-- A success that reports the revision computed of a snapshot's document. -/
def Announces (cfg : Config V) (snapshot : EnvSnapshot V) (journal : Option (Journal V))
    (revise : Environment → Except RemoteStoreError EnvRevision)
    (outcome : Nat → MutationResult) : Prop :=
  ∃ own env next audit, journal = some own ∧
    cfg.json.environment.fromValue snapshot.environment = .ok env ∧ revise env = .ok next ∧
    own.responseBody =
      .envelope ⟨outcome next.generation, next.etag, next.generation, .applied, audit⟩

/-- A stored backup records the document it captured. An import and a restore commit in
one way, with the response that announces theirs. -/
def Tells (cfg : Config V) (request : Request V) (k : Known V) : Call V → Prop
  | .createBackup backup _ => request.brings = false ∧ ∃ snapshot revision,
      k.captured = some (snapshot, revision) ∧
      cfg.json.snapshot.toValue snapshot = .ok backup.state ∧
      backup.manifest.integrity = sha256Integrity cfg.json snapshot.environment
  | .importEnv _ snapshot journal => ∃ segment artifact,
      request.route = .mutate (.importEnvironment segment artifact) ∧
      cfg.json.snapshot.fromValue artifact.snapshot = .ok snapshot ∧
      Announces cfg snapshot journal (createdRevision cfg)
        fun generation => .imported generation artifact.manifest.integrity
  | .restoreEnv _ snapshot _ journal => ∃ segment id pin backup loaded,
      request.route = .mutate (.restoreEnvironment segment id pin) ∧
      k.backup = some backup ∧ k.loaded = some loaded ∧
      cfg.json.snapshot.fromValue backup.state = .ok snapshot ∧
      Announces cfg snapshot journal (fun env => nextRevision cfg env loaded.revision)
        fun generation => .restored generation backup.manifest.integrity
  | .loadEnv _ | .lookupIdempotency .. | .loadTrustRoot _ | .loadBackup .. => True
  | .loadEnvSnapshot _ | .recordAudit .. => True
  | _ => request.brings = false

abbrev Told {α : Type} (cfg : Config V) (request : Request V) (k : Known V)
    (program : Handling V α) : Prop :=
  program.run.Obeys (Tells cfg request) learn (fun _ _ => True) k

theorem told_withReplay {body : Handling V (Response V)} (told : Told cfg request k body) :
    Told cfg request k (withReplay ctx body) := handles_withReplay (fun _ _ _ => trivial) told

section Handlers

variable {handler : Handler V}

theorem createBackup_told {segment : Segment EnvId} (brings : request.brings = false)
    (built : createBackup cfg head segment = .ok handler) {headers : HeaderMap}
    {body : Context → Handling V (Response V)} (entered : handler.enter headers = .ok body) :
    Told cfg request k (body ctx) := by
  obtain ⟨id, _, built⟩ := bind_ok built
  cases built
  cases entered
  refine told_withReplay (handles_ask trivial fun reply captured returned => ?_)
  rw [mapError_ok returned]
  refine handles_lift fun state encoded => handles_last ?_
  exact ⟨brings, captured.1, captured.2, rfl, mapError_ok encoded, rfl⟩

theorem verifiedSnapshot_env {source : String} {state : V} {digest : String}
    {verified : EnvSnapshot V × Environment}
    (returned : verifiedSnapshot cfg source state digest = .ok verified) :
    cfg.json.environment.fromValue verified.1.environment = .ok verified.2 := by
  unfold verifiedSnapshot at returned
  obtain ⟨_, _, returned⟩ := bind_ok returned
  obtain ⟨snapshot, _, returned⟩ := bind_ok returned
  obtain ⟨env, decoded, returned⟩ := bind_ok returned
  cases returned
  exact mapError_ok decoded

theorem importEnvironment_told {segment : Segment EnvId} {artifact : BackupArtifact V}
    (routed : request.route = .mutate (.importEnvironment segment artifact))
    (built : importEnvironment cfg segment artifact = .ok handler) {headers : HeaderMap}
    {body : Context → Handling V (Response V)} (entered : handler.enter headers = .ok body) :
    Told cfg request k (body ctx) := by
  obtain ⟨id, _, built⟩ := bind_ok built
  cases built
  cases entered
  refine told_withReplay (handles_lift fun _ _ => handles_lift fun verified checked => ?_)
  refine handles_lift fun next computed => handles_last ?_
  exact ⟨segment, artifact, routed, verifiedSnapshot_ok checked, _, verified.2, next, _, rfl,
    verifiedSnapshot_env checked, computed, rfl⟩

theorem restoreEnvironment_told {segment : Segment EnvId} {backupId : String} {pin : Precondition}
    (routed : request.route = .mutate (.restoreEnvironment segment backupId pin))
    (built : restoreEnvironment cfg segment backupId pin = .ok handler) {headers : HeaderMap}
    {body : Context → Handling V (Response V)} (entered : handler.enter headers = .ok body) :
    Told cfg request k (body ctx) := by
  obtain ⟨id, _, built⟩ := bind_ok built
  cases built
  cases entered
  refine told_withReplay (handles_lift fun _ _ => handles_ask trivial fun reply backup found => ?_)
  refine handles_lift fun verified checked => handles_loadEnvironment trivial fun loaded => ?_
  refine handles_lift fun _ _ => ?_
  refine handles_lift fun next computed => handles_last ?_
  have held : (learn k (.loadBackup ctx.envId backupId) reply).backup = some backup := by
    rcases reply with e | _ | read <;> cases found
    rfl
  exact ⟨segment, backupId, pin, backup, loaded, routed, held, rfl, verifiedSnapshot_ok checked, _,
    verified.2, next, _, rfl, verifiedSnapshot_env checked, computed, rfl⟩

theorem Mutation.makes_tells {mutation : Mutation V} (routed : request.route = .mutate mutation)
    (brings : mutation.brings = false) (stores : ∀ segment, mutation ≠ .createBackup segment)
    (made : mutation.makes cfg call) : Tells cfg request k call := by
  have none : request.brings = false := by
    simp only [Request.brings, routed, brings]
  cases call with
  | createBackup backup journal =>
      obtain ⟨⟨segment, wrong⟩, _⟩ := made
      exact absurd wrong (stores segment)
  | importEnv envId snapshot journal =>
      obtain ⟨segment, artifact, rfl⟩ := made
      cases brings
  | restoreEnv envId snapshot precondition journal =>
      obtain ⟨segment, id, pin, rfl⟩ := made
      cases brings
  | _ => first | exact none | trivial

theorem handler_tells {mutation : Mutation V} (routed : request.route = .mutate mutation)
    (built : mutation.handler cfg head = .ok handler) {headers : HeaderMap}
    {body : Context → Handling V (Response V)} (entered : handler.enter headers = .ok body) :
    Told cfg request k (body ctx) := by
  have others : mutation.brings = false → (∀ segment, mutation ≠ .createBackup segment) →
      Told cfg request k (body ctx) := fun brings stores =>
    (handler_makes built headers body entered ctx).obeys
      (fun _ _ made => Mutation.makes_tells routed brings stores made) (fun _ _ => trivial) k
  cases mutation with
  | createBackup segment =>
      exact createBackup_told (by simp only [Request.brings, routed, Mutation.brings]) built entered
  | importEnvironment segment artifact => exact importEnvironment_told routed built entered
  | restoreEnvironment segment id pin => exact restoreEnvironment_told routed built entered
  | _ => exact others rfl nofun

theorem serve_tells (cfg : Config V) (request : Request V) :
    (serve cfg request).Obeys (Tells cfg request) learn (fun _ _ => True) Known.nothing := by
  cases admission : request.admission cfg with
  | some ctx =>
      exact serve_entered admission (fun _ _ => trivial) fun _ _ _ routed built entered =>
        handler_tells routed built entered
  | none =>
      refine ((serve_obeys cfg request).imp fun k call permitted => ?_).mono fun _ _ _ => trivial
      obtain ⟨_, _, rest⟩ := permitted
      rw [admission] at rest
      rcases rest with ⟨envId, eventId, event, rfl⟩ | ⟨envId, id, rfl⟩ <;> trivial

end Handlers

def Typed (cfg : Config V) (data : V) : Prop := ∃ env, cfg.json.environment.toValue env = .ok data

/-- Rows hold what the store has written, and a backup the digest of its document. -/
structure Vouched (cfg : Config V) (db : Db V (ResponseBody V)) : Prop where
  rows : ∀ envId row, db.environments.lookup envId = some row → Typed cfg row.data
  backups : ∀ key backup, db.backups.lookup key = some backup →
    Attests cfg backup.manifest backup.state

/-- The same of what a request has read. -/
structure Vouches (cfg : Config V) (k : Known V) : Prop where
  captured : ∀ snapshot revision, k.captured = some (snapshot, revision) →
    Typed cfg snapshot.environment
  backup : ∀ backup, k.backup = some backup → Attests cfg backup.manifest backup.state

theorem Typed.attests {snapshot : EnvSnapshot V} {backup : StoredBackup V}
    (typed : Typed cfg snapshot.environment)
    (encoded : cfg.json.snapshot.toValue snapshot = .ok backup.state)
    (recorded : backup.manifest.integrity = sha256Integrity cfg.json snapshot.environment) :
    Attests cfg backup.manifest backup.state := by
  obtain ⟨env, written⟩ := typed
  have unpacked := cfg.json.snapshot.fromValue_toValue snapshot backup.state encoded
  have decoded := cfg.json.environment.fromValue_toValue env snapshot.environment written
  rw [attests_iff unpacked decoded written, recorded]
  rfl

theorem Vouched.empty : Vouched cfg Db.empty where
  rows := fun _ _ present => by cases present
  backups := fun _ _ present => by cases present

theorem drafts_vouched (held : Vouched cfg db) (vouches : Vouches cfg k)
    (tells : Tells cfg request k call) (drafts : Drafts cfg request ctx k db call mid) :
    Vouched cfg mid := by
  cases drafts with
  | create named founds encoded absent valid =>
      exact ⟨Table.forall_insert held.rows ⟨_, encoded⟩, held.backups⟩
  | update known transforms encoded current fresh valid =>
      exact ⟨Table.forall_insert held.rows ⟨_, encoded⟩, held.backups⟩
  | policy known transforms priced encoded current fresh valid =>
      exact ⟨Table.forall_insert held.rows ⟨_, encoded⟩, held.backups⟩
  | restore asked known backup unpacked decoded encoded current fresh valid =>
      exact ⟨Table.forall_insert held.rows ⟨_, encoded⟩, held.backups⟩
  | importEnv asked decoded named encoded absent history valid =>
      exact ⟨Table.forall_insert held.rows ⟨_, encoded⟩, held.backups⟩
  | backup known encoded named =>
      obtain ⟨_, snapshot, revision, captured, packed, recorded⟩ := tells
      have typed := vouches.captured snapshot revision captured
      exact ⟨held.rows, Table.forall_insert held.backups (typed.attests packed recorded)⟩
  | dropBackup known => exact ⟨held.rows, Table.forall_erase held.backups _⟩
  | _ => exact ⟨held.rows, held.backups⟩

theorem Vouched.sameTables {after : Db V (ResponseBody V)} (held : Vouched cfg db)
    (same : SameTables db after) : Vouched cfg after := by
  refine ⟨?_, ?_⟩
  · rw [same.environments]
    exact held.rows
  · rw [same.backups]
    exact held.backups

theorem Effect.vouched {now : Timestamp} {state : ServerState V} {reply : call.Reply}
    {after : Db V (ResponseBody V)} (effect : Effect cfg request k now state call reply after)
    (held : Vouched cfg state.db) (vouches : Vouches cfg k) (tells : Tells cfg request k call) :
    Vouched cfg after := by
  cases effect with
  | quiet same kept =>
      rw [same]
      exact held
  | denial refused appended same kept =>
      rw [same]
      exact ⟨held.rows, held.backups⟩
  | commit admitted drafts journaled wrote learned =>
      exact (drafts_vouched held vouches tells drafts).sameTables (journalInTx_sameTables wrote)

theorem loadEnvSnapshot_typed (held : Vouched cfg db) {envId : EnvId} {snapshot : EnvSnapshot V}
    {revision : EnvRevision}
    (returned : Store.loadEnvSnapshot db envId = .ok (snapshot, revision)) :
    Typed cfg snapshot.environment := by
  unfold loadEnvSnapshot at returned
  split at returned
  · cases returned
  · rename_i row current
    cases returned
    exact held.rows envId row current

theorem Vouches.learn {after : Known V} (vouches : Vouches cfg k) (held : Vouched cfg db)
    (learned : Learns cfg db k after call) : Vouches cfg after := by
  refine ⟨?_, ?_⟩
  · intro snapshot revision known
    rcases learned.captured with same | ⟨envId, read, rfl, returned, now⟩
    · exact vouches.captured snapshot revision (same ▸ known)
    · cases now.symm.trans known
      exact loadEnvSnapshot_typed held returned
  · intro backup known
    rcases learned.backup with same | ⟨envId, id, read, rfl, present, now⟩
    · exact vouches.backup backup (same ▸ known)
    · cases now.symm.trans known
      exact held.backups (envId, id) backup present

def allows (cfg : Config V) (request : Request V) (k : Known V) (call : Call V) : Prop :=
  permits cfg request k call ∧ Tells cfg request k call

theorem vouched_rules (cfg : Config V) : (server cfg).Rules (fun _ _ => True) (allows cfg)
    (Ends cfg) (fun state => Vouched cfg state.db) (fun _ k _ => Vouches cfg k) where
  body := fun request =>
    ((serve_obeys cfg request).and (serve_tells cfg request)).mono fun _ _ ends => ends.1
  start := fun _ _ _ => ⟨nofun, nofun⟩
  reset := fun pool event _ held => held.sameTables
    (reconcileAuditRetention_sameTables pool.shared.db (auditCapOf event.1) event.2)
  inv := by
    intro pool index now task call next _ found program sound
    obtain ⟨⟨permitted, tells⟩, vouches⟩ := sound.acting found program
    exact (effect_of_permitted now pool.shared permitted).vouched sound.inv vouches tells
  learned := by
    intro pool index now task call next _ found program sound
    obtain ⟨_, vouches⟩ := sound.acting found program
    exact vouches.learn sound.inv (learns cfg _ _ _ _)
  stable := fun _ _ _ _ _ _ _ _ _ _ _ _ _ vouches => vouches

theorem vouched_sound (cfg : Config V) (maxRows : Option UInt32)
    (actions : List (ServerAction V)) :
    (server cfg).Sound (allows cfg) (Ends cfg) (fun state => Vouched cfg state.db)
      (fun _ k _ => Vouches cfg k) ((serverRuns cfg).run (boot maxRows) actions) :=
  (server cfg).sound_run (vouched_rules cfg) (boot maxRows) actions
    ((serverRuns cfg).admits_of_allowed (fun _ _ => trivial) _ _)
    ((server cfg).sound_empty .empty)

/-- What is asked of an import's artifact is asked of nothing in a restore. -/
def Request.Vetted (cfg : Config V) (request : Request V) : Prop :=
  ∀ segment artifact, request.route = .mutate (.importEnvironment segment artifact) →
    Attests cfg artifact.manifest artifact.snapshot

/-- The row a success stands for: it is the environment's, its etag is its digest, and the
envelope says so. Every etag of the response is that one if and only if what was imported
recorded it. -/
structure StandsFor (cfg : Config V) (request : Request V) (ctx : Context)
    (after : Db V (ResponseBody V)) (body : ResponseBody V) (row : DocRow V) : Prop where
  stored : after.environments.lookup ctx.envId = some row
  pinned : row.etag = ⟨row.integrityDigest⟩
  envelope : ∃ success, body = .envelope success ∧ success.etag = row.etag ∧
    success.generation = row.generation
  exact : (∀ etag ∈ body.etags, etag = ⟨row.integrityDigest⟩) ↔ request.Vetted cfg

/-- An envelope's own etag is the row's; its outcome's is the row's where the digest is. -/
theorem etags_exact {success : MutationEnvelope} {integrity : StateIntegrity} {digest : String}
    (own : success.etag = ⟨digest⟩)
    (recorded : success.result.etag = some (.fromIntegrity integrity)) :
    (∀ etag ∈ (ResponseBody.envelope success : ResponseBody V).etags, etag = ⟨digest⟩) ↔
      integrity.digest = digest := by
  simp only [ResponseBody.etags, recorded, Option.toList_some, List.mem_cons, List.not_mem_nil,
    or_false, forall_eq_or_imp, forall_eq, own, true_and, StateEtag.fromIntegrity,
    StateEtag.mk.injEq]

theorem standsFor_announced {after : Db V (ResponseBody V)} {data : V} {generation : Nat}
    {success : MutationEnvelope} {manifest : BackupManifest}
    (stored : after.environments.lookup ctx.envId = some (docRow cfg.json data generation))
    (etag : success.etag = (docRow cfg.json data generation).etag)
    (numbered : success.generation = generation)
    (recorded : success.result.etag = some (.fromIntegrity manifest.integrity))
    (vetted : request.Vetted cfg ↔ manifest.integrity.digest = cfg.json.sha256Of data) :
    StandsFor cfg request ctx after (.envelope success) (docRow cfg.json data generation) where
  stored := stored
  pinned := rfl
  envelope := ⟨success, rfl, etag, numbered⟩
  exact := (etags_exact etag recorded).trans vetted.symm

theorem Effect.standsFor {now : Timestamp} {state : ServerState V} {reply : call.Reply}
    {after : Db V (ResponseBody V)} {journal : Journal V}
    (effect : Effect cfg request k now state call reply after)
    (admitted : request.admission cfg = some ctx) (brings : request.brings = true)
    (tells : Tells cfg request k call) (vouches : Vouches cfg k)
    (remembers : Remembers cfg request k state.db) (free : k.committed = none)
    (committed : (learn k call reply).committed = some journal) :
    ∃ row, StandsFor cfg request ctx after journal.responseBody row := by
  obtain ⟨mid, drafts, journaled, wrote⟩ := effect.drafted admitted committed
  have tables := (journalInTx_sameTables wrote).environments
  obtain ⟨result, rfl⟩ := committed_reply free committed
  cases drafts with
  | importEnv asked decoded named encoded absent history valid =>
      obtain ⟨segment, artifact, routed, unpacked, told, env, next, audit, rfl, read, computed,
        body⟩ := tells
      cases decoded.symm.trans read
      cases committed
      rw [body]
      refine ⟨_, standsFor_announced ?_
        (content_docRow (createdRevision_content computed) encoded)
        (createdRevision_generation computed) rfl ?_⟩
      · rw [tables, withAudit_environments, Db.withSidecars_environments,
          Db.putEnv_environments, AList.lookup_insert]
      · rw [← attests_iff unpacked decoded encoded]
        constructor
        · intro vetted
          exact vetted segment artifact routed
        · intro attested other brought asked
          cases routed.symm.trans asked
          exact attested
  | restore asked known held unpacked decoded encoded current fresh valid =>
      obtain ⟨segment, id, pin, backup, loaded, routed, own, seen, opened, told, env, next,
        audit, rfl, read, computed, body⟩ := tells
      cases held.symm.trans own
      cases known.symm.trans seen
      cases decoded.symm.trans read
      cases committed
      rw [body]
      have named := (remembers.snapshots.backup ctx _ admitted held _ unpacked).1 _ decoded
      have numbered := nextRevision_generation computed
      refine ⟨_, standsFor_announced ?_
        (content_docRow (nextRevision_content computed) encoded) (fresh ▸ numbered) rfl ?_⟩
      · rw [tables, withAudit_environments, Db.withSidecars_environments,
          Db.putEnv_environments, named, AList.lookup_insert]
      · -- a restore imports nothing, and the backup it loaded is attested
        have attested := (attests_iff unpacked decoded encoded).mp (vouches.backup _ held)
        have vetted : request.Vetted cfg := fun _ _ asked => by cases routed.symm.trans asked
        exact iff_of_true vetted attested
  | backup => exact absurd (brings.symm.trans tells.1) nofun
  | _ => exact absurd (brings.symm.trans tells) nofun

theorem Request.brings_some (brings : request.brings = true) :
    ∃ mutation, request.route = .mutate mutation := by
  unfold Request.brings at brings
  split at brings
  · exact ⟨_, by assumption⟩
  · cases brings

/-- The row that answers the retries of a request, with the same etags. -/
def Ledgered (after : Db V (ResponseBody V)) (ctx : Context) (body : ResponseBody V) : Prop :=
  ∃ row ∈ after.idempotencyLedger, row.key = (ctx.envId, ctx.idemKey.asStr) ∧
    row.responseBody = body ∧ (replay row.toStoredIdempotencyRecord).body.etags = body.etags

theorem Effect.ledgered {now : Timestamp} {state : ServerState V} {reply : call.Reply}
    {after : Db V (ResponseBody V)} {journal : Journal V}
    (effect : Effect cfg request k now state call reply after)
    (admitted : request.admission cfg = some ctx)
    (committed : (learn k call reply).committed = some journal) :
    Ledgered after ctx journal.responseBody := by
  obtain ⟨mid, drafts, journaled, wrote⟩ := effect.drafted admitted committed
  refine ⟨journal.ledgerRow, ?_, ?_, rfl, etags_flipMarker _⟩
  · rw [effect.inserts admitted committed]
    exact evictLedger_newest _ journal.ledgerRow
  · rw [← journaled.envId, ← journaled.key]
    rfl

/-- The revision an import or a restore reports. In every run, a turn that ends such a
request with a success either replays a stored response, or has committed the row of its
environment: the envelope reports that row's digest, as does what the ledger keeps for
replays. The outcome reports it too, after a restore always, and after an import if and
only if the artifact's manifest records the digest of the artifact's own document. -/
theorem reported_revision (cfg : Config V) (maxRows : Option UInt32)
    (actions : List (ServerAction V)) (index : Nat) (now : Timestamp) (task : ServerTask V)
    (call : Call V) (next : call.Reply → Serving V) (known : Known V) (response : Response V)
    (found : ((serverRuns cfg).run (boot maxRows) actions).tasks[index]? = some task)
    (program : task.program = .call call next) (brings : task.tag.brings = true)
    (ended : ((server cfg).step ((serverRuns cfg).run (boot maxRows) actions)
      (.advance index now)).tasks[index]? = some ⟨task.tag, known, .done (.ok response)⟩) :
    ∃ ctx, task.tag.admission cfg = some ctx ∧
      ((∃ record, known.found = some record ∧ response = replay record) ∨
      ∃ row, StandsFor cfg task.tag ctx ((server cfg).step ((serverRuns cfg).run (boot maxRows)
          actions) (.advance index now)).shared.db response.body row ∧
        Ledgered ((server cfg).step ((serverRuns cfg).run (boot maxRows) actions)
          (.advance index now)).shared.db ctx response.body) := by
  have documents := updates_sound cfg maxRows actions
  have sound := vouched_sound cfg maxRows actions
  have refusals := fails_run cfg maxRows actions
  generalize (serverRuns cfg).run (boot maxRows) actions = pool
    at documents sound refusals found ended
  have member := List.mem_of_getElem? found
  have turned : ((server cfg).step pool (.advance index now)).tasks[index]? =
      some ⟨task.tag, learn task.known call ((server cfg).exec now pool.shared call).1,
        next ((server cfg).exec now pool.shared call).1⟩ :=
    (server cfg).turned found program now
  rw [turned] at ended
  have finished := congrArg Task.program (Option.some.inj ended)
  have learned := congrArg Task.known (Option.some.inj ended)
  simp only at finished learned
  cases admission : task.tag.admission cfg with
  | none =>
      obtain ⟨mutation, routed⟩ := Request.brings_some brings
      have fails := refusals task member mutation routed admission
      rw [program] at fails
      obtain ⟨e, failed⟩ := finished ▸ fails.2 ((server cfg).exec now pool.shared call).1
      cases failed
  | some ctx =>
      refine ⟨ctx, rfl, ?_⟩
      obtain ⟨⟨permitted, tells⟩, vouches⟩ := sound.acting found program
      obtain ⟨_, remembers⟩ := documents.acting found program
      have obeys := documents.obeys task member
      rw [program] at obeys
      have ends := obeys.2 ((server cfg).exec now pool.shared call).1
      rw [finished] at ends
      rcases Ends.own ends admission with ⟨record, replayed, same⟩ | ⟨journal, committed, same⟩
      · exact .inl ⟨record, learned ▸ replayed, same⟩
      · have effect := effect_of_permitted now pool.shared permitted
        obtain ⟨row, standsFor⟩ := effect.standsFor admission brings tells vouches remembers
          permitted.2.1 committed
        have ledgered := effect.ledgered admission committed
        rw [(server cfg).step_call found program, same]
        exact .inr ⟨row, standsFor, ledgered⟩

def importing (mutation : Mutation PlainValue) : List (ServerAction PlainValue) :=
  .arrive (demoRequest none "e" mutation) :: turns 0 1

/-- The backup under a manifest that records another digest. -/
def forgedImport : Mutation PlainValue :=
  .importEnvironment (.ok ⟨"local"⟩) ⟨⟨"greentic.backup-artifact.v1"⟩,
    { prunedBackup.manifest with integrity := ⟨integrityAlgorithmSha256, "forged"⟩ },
    prunedBackup.state, prunedBackup.snapshotDigest⟩

/-- The artifact as its server exported it. -/
theorem reported_revision_imported :
    let pool := (serverRuns (demoConfig .openDev)).run (boot none) (importing demoImport)
    let after := (server (demoConfig .openDev)).step pool (.advance 0 "2026-01-01 00:00:00")
    ∃ task known response, pool.tasks[0]? = some task ∧
      after.tasks[0]? = some ⟨task.tag, known, .done (.ok response)⟩ ∧
      response.body.etags = [⟨"local/renamed"⟩, ⟨"local/renamed"⟩] ∧
      ∃ ctx, task.tag.admission (demoConfig .openDev) = some ctx ∧
        ((∃ record, known.found = some record ∧ response = replay record) ∨
        ∃ row, StandsFor (demoConfig .openDev) task.tag ctx after.shared.db response.body row ∧
          Ledgered after.shared.db ctx response.body) := by
  intro pool after
  have reported := reported_revision (demoConfig .openDev) none (importing demoImport) 0
    "2026-01-01 00:00:00" (pool.tasks[0]?.get rfl) _ _ _ _ (Option.some_get _).symm rfl rfl rfl
  exact ⟨_, _, _, (Option.some_get _).symm, rfl, by decide, reported⟩

/-- That whatever etag a successful import or restore carries is the digest of the row. -/
def EtagsCurrent (cfg : Config V) : Prop :=
  ∀ maxRows actions index now task known response ctx row,
    ((serverRuns cfg).run (boot maxRows) actions).tasks[index]? = some task →
    task.InFlight → task.tag.brings = true → task.tag.admission cfg = some ctx →
    ((server cfg).step ((serverRuns cfg).run (boot maxRows) actions)
      (.advance index now)).tasks[index]? = some ⟨task.tag, known, .done (.ok response)⟩ →
    known.found = none →
    ((server cfg).step ((serverRuns cfg).run (boot maxRows) actions)
      (.advance index now)).shared.db.environments.lookup ctx.envId = some row →
    ∀ etag ∈ response.body.etags, etag = ⟨row.integrityDigest⟩

/-- The digest of the manifest is passed on as it came. -/
theorem imported_etag_forged : ¬ EtagsCurrent (demoConfig .openDev) := by
  intro claim
  have current := claim none (importing forgedImport) 0 "2026-01-01 00:00:00"
    (((serverRuns (demoConfig .openDev)).run (boot none)
      (importing forgedImport)).tasks[0]?.get rfl) _ _ _ _ (Option.some_get _).symm ⟨_, _, rfl⟩ rfl rfl rfl rfl (Option.some_get rfl).symm
  exact absurd (current ⟨"forged"⟩ (by decide)) (by decide)

end GreenticDeployer.Server
