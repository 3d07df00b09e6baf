import GreenticDeployer.Server.Retention

/-!
# Revenue policies over whole runs

A deployment pins the version of the policy that was signed for its share, in
the transaction that stores it. Version numbers are counted from the document,
and a restore takes the document back: the next version may then be one that a
backup still pins, signed for another share.
-/

set_option maxHeartbeats 200000

namespace GreenticDeployer.Server

open Spec Engine Store Trust Lib

variable {V : Type} {cfg : Config V} {request : Request V} {ctx : Context} {k : Known V}
variable {db mid : Db V (ResponseBody V)} {call : Call V}

/-- The policy an account pins is stored for the environment, under the number
its reference names, and says the account's own share. -/
def Backed (policies : Table PolicyKey RevenuePolicyArtifact) (envId : EnvId)
    (account : Account) : Prop :=
  account.revenuePolicyRef ≠ "" → ∃ version artifact,
    account.revenuePolicyRef = sidecarRef account.bundleId account.customerId version ∧
    policies.lookup ⟨envId, account.bundleId, account.customerId, version⟩ = some artifact ∧
    artifact.policyRef = account.revenuePolicyRef ∧
    artifact.doc.revenueShare = account.revenueShare

/-- A document whose deployments agree with the policies they pin. -/
structure Agreed (policies : Table PolicyKey RevenuePolicyArtifact) (env : Environment) : Prop where
  apart : CustomersApart env
  backed : ∀ account ∈ accounts env, Backed policies env.environmentId account

def Agrees (cfg : Config V) (policies : Table PolicyKey RevenuePolicyArtifact) (data : V) : Prop :=
  ∀ env, cfg.json.environment.fromValue data = .ok env → Agreed policies env

/-- Every document agrees, in its row and in every backup. -/
structure Accounted (cfg : Config V) (db : Db V (ResponseBody V)) : Prop where
  rows : ∀ envId row, db.environments.lookup envId = some row →
    Agrees cfg db.revenuePolicies row.data
  backups : Stored cfg (fun _ snapshot => Agrees cfg db.revenuePolicies snapshot.environment) db

/-- Every document a request has captured or loaded from a backup agrees. -/
abbrev HoldsAgreed (cfg : Config V) (db : Db V (ResponseBody V)) (request : Request V)
    (k : Known V) : Prop :=
  Held cfg (fun _ snapshot => Agrees cfg db.revenuePolicies snapshot.environment) request k

theorem Accounted.empty : Accounted cfg Db.empty where
  rows := fun _ _ present => by cases present
  backups := .empty

theorem Accounted.withAudit (accounted : Accounted cfg db) (audit : AuditState V) :
    Accounted cfg (withAudit db audit) := ⟨accounted.rows, accounted.backups⟩

theorem Agrees.encoded {policies : Table PolicyKey RevenuePolicyArtifact} {env : Environment}
    {data : V} (encoded : cfg.json.environment.toValue env = .ok data)
    (agreed : Agreed policies env) : Agrees cfg policies data := by
  intro other decoded
  rw [cfg.json.environment.fromValue_toValue env data encoded] at decoded
  cases decoded
  exact agreed

theorem Backed.insert {policies : Table PolicyKey RevenuePolicyArtifact} {envId owner : EnvId}
    {account : Account} {artifact : RevenuePolicyArtifact}
    (numbered : artifact.policyRef =
      sidecarRef artifact.bundleId artifact.customerId artifact.version)
    (backed : Backed policies owner account)
    (same : owner = envId → account.bundleId = artifact.bundleId →
      account.customerId = artifact.customerId →
      account.revenuePolicyRef = artifact.policyRef →
      artifact.doc.revenueShare = account.revenueShare) :
    Backed (policies.insert (artifact.key envId) artifact) owner account := by
  intro pinned
  obtain ⟨version, old, reference, stored, names, share⟩ := backed pinned
  rcases Table.lookup_insert_cases policies (artifact.key envId)
    ⟨owner, account.bundleId, account.customerId, version⟩ artifact with other | ⟨key, written⟩
  · exact ⟨version, old, reference, other.trans stored, names, share⟩
  · simp only [RevenuePolicyArtifact.key, PolicyKey.mk.injEq] at key
    obtain ⟨environment, bundle, customer, number⟩ := key
    have replaced : account.revenuePolicyRef = artifact.policyRef := by
      rw [reference, numbered, bundle, customer, number]
    exact ⟨version, artifact, reference, written, replaced.symm,
      same environment bundle customer replaced⟩

def pendingPolicy : Program (Call V) StorageCall.Reply (Except RemoteStoreError (Response V)) →
    Option (EnvId × RevenuePolicyArtifact)
  | .call (.updateEnvWithRevenuePolicy env _ artifact _ _) _ => some (env.environmentId, artifact)
  | _ => none

/-- The snapshots a restore may yet bring back: the stored backups, and those a
request in flight has captured or loaded. -/
def heldSnapshots (cfg : Config V) (pool : ServerPool V) : List (EnvSnapshot V) :=
  (pool.shared.db.backups.entries.filterMap fun entry =>
    (cfg.json.snapshot.fromValue entry.2.state).toOption) ++
  (pool.tasks.filter fun task => task.InFlight).flatMap fun task =>
    (task.known.captured.map Prod.fst).toList ++
      (task.known.backup.bind fun backup =>
        (cfg.json.snapshot.fromValue backup.state).toOption).toList

def heldDocuments (cfg : Config V) (pool : ServerPool V) : List Environment :=
  (heldSnapshots cfg pool).filterMap fun snapshot =>
    (cfg.json.environment.fromValue snapshot.environment).toOption

/-- No import, and no policy commit of a version that a held document of the
environment pins with another share. -/
def VersionsFit (cfg : Config V) (pool : ServerPool V) : ServerAction V → Prop
  | .advance index _ => ∀ task ∈ pool.tasks[index]?, (pendingImport task.program).isNone = true ∧
      ∀ pending ∈ pendingPolicy task.program, ∀ held ∈ heldDocuments cfg pool,
        held.environmentId = pending.1 → ∀ b ∈ held.bundles,
          b.revenuePolicyRef = pending.2.policyRef →
          b.revenueShare = pending.2.doc.revenueShare
  | _ => True

instance (cfg : Config V) (pool : ServerPool V) :
    (action : ServerAction V) → Decidable (VersionsFit cfg pool action)
  | .advance index _ => inferInstanceAs (Decidable (∀ task ∈ pool.tasks[index]?,
      (pendingImport task.program).isNone = true ∧
      ∀ pending ∈ pendingPolicy task.program, ∀ held ∈ heldDocuments cfg pool,
        held.environmentId = pending.1 → ∀ b ∈ held.bundles,
          b.revenuePolicyRef = pending.2.policyRef →
          b.revenueShare = pending.2.doc.revenueShare))
  | .arrive _ => .isTrue trivial
  | .restart _ => .isTrue trivial

theorem Mutation.Founds.bundles {mutation : Mutation V} {env : Environment}
    (founds : mutation.Founds env) : env.bundles = [] := by
  cases mutation with
  | createEnvironment payload =>
      rw [show env = createdEnvironment payload from founds]
      rfl
  | migrateBindings envId payload =>
      obtain ⟨id, report, _, seeded⟩ := founds
      cases seed : payload.seedIfMissing with
      | none =>
          rw [seededEnvironment, seed] at seeded
          cases seeded
      | some settings =>
          rw [seededEnvironment, seed] at seeded
          have merged : _ = env := congrArg Prod.snd (Except.ok.inj seeded)
          rw [← merged]
          exact mergeBindings_bundles _ payload.packs payload.extensions
  | _ => cases founds

theorem Agreed.fresh {policies : Table PolicyKey RevenuePolicyArtifact} {env : Environment}
    (bare : env.bundles = []) : Agreed policies env := by
  refine ⟨?_, ?_⟩
  · rw [CustomersApart, bare]
    exact List.nodup_nil
  · intro account member
    rw [accounts, bare] at member
    cases member

theorem Agreed.persist {policies : Table PolicyKey RevenuePolicyArtifact} {env : Environment}
    {verb : Verb} (serde : SerdeJson) (ext : Externals) (agreed : Agreed policies env)
    (keeps : keepsAccounts verb = true) : Agreed policies (persist serde ext env verb) where
  apart := persist_customersApart ext env verb agreed.apart
  backed := by
    intro account member
    rw [persist_environmentId]
    exact agreed.backed account (persist_accounts ext env verb keeps member)

/-- A document that does not pin the new version with another share. -/
theorem Agreed.insert {policies : Table PolicyKey RevenuePolicyArtifact} {env : Environment}
    {envId : EnvId} {artifact : RevenuePolicyArtifact}
    (numbered : artifact.policyRef =
      sidecarRef artifact.bundleId artifact.customerId artifact.version)
    (agreed : Agreed policies env)
    (same : env.environmentId = envId → ∀ b ∈ env.bundles,
      b.revenuePolicyRef = artifact.policyRef → b.revenueShare = artifact.doc.revenueShare) :
    Agreed (policies.insert (artifact.key envId) artifact) env where
  apart := agreed.apart
  backed := by
    intro account member
    refine (agreed.backed account member).insert numbered ?_
    intro owner _ _ pinned
    obtain ⟨b, deployed, rfl⟩ := List.mem_map.mp member
    exact (same owner b deployed pinned).symm

/-- The document a policy commit writes: one deployment pins the new version, the
others are of other customers or bundles. -/
theorem Agreed.priced {policies : Table PolicyKey RevenuePolicyArtifact}
    {before after : Environment} {index : Nat} {deployment : BundleDeployment}
    {artifact : RevenuePolicyArtifact} (agreed : Agreed policies before)
    (priced : Priced before after index deployment artifact)
    (sameId : after.environmentId = before.environmentId) (apart : CustomersApart after) :
    Agreed (policies.insert (artifact.key after.environmentId) artifact) after where
  apart := apart
  backed := by
    intro account member
    obtain ⟨b, deployed, rfl⟩ := List.mem_map.mp member
    obtain ⟨position, found⟩ := List.mem_iff_getElem?.mp deployed
    by_cases own : position = index
    · subst own
      rw [priced.at_index] at found
      cases found
      intro _
      refine ⟨artifact.version, artifact, ?_, ?_, priced.reference.symm, priced.share⟩
      · simp only [accountOf]
        rw [priced.reference, priced.numbered, priced.bundle, priced.customer]
      · rw [RevenuePolicyArtifact.key, priced.bundle, priced.customer]
        exact AList.lookup_insert policies
    · have old := priced.others position b own found
      have backed := agreed.backed (accountOf b) (List.mem_map.mpr ⟨b, old, rfl⟩)
      rw [← sameId] at backed
      refine backed.insert priced.numbered ?_
      intro _ bundle customer _
      refine absurd ?_ own
      have pairs : (after.bundles.map fun b => (b.bundleId, b.customerId))[position]? =
          (after.bundles.map fun b => (b.bundleId, b.customerId))[index]? := by
        rw [List.getElem?_map, List.getElem?_map, found, priced.at_index]
        simp only [Option.map_some, Option.some.injEq, Prod.mk.injEq]
        exact ⟨bundle.trans priced.bundle, customer.trans priced.customer⟩
      have bound : position < (after.bundles.map fun b => (b.bundleId, b.customerId)).length := by
        rw [List.length_map]
        exact (List.getElem?_eq_some_iff.mp found).1
      exact (List.getElem?_inj bound apart).mp pairs

theorem drafts_rows (admitted : request.admission cfg = some ctx) (keyed : Keyed cfg db)
    (accounted : Accounted cfg db) (remembers : Remembers cfg request k db)
    (held : HoldsAgreed cfg db request k)
    (native : ∀ envId snapshot journal, call ≠ .importEnv envId snapshot journal)
    (drafts : Drafts cfg request ctx k db call mid) :
    ∀ envId row, mid.environments.lookup envId = some row →
      Agrees cfg mid.revenuePolicies row.data := by
  cases drafts with
  | create named founds encoded absent valid =>
      obtain ⟨mutation, _, founded⟩ := founds
      exact Table.forall_insert accounted.rows (.encoded encoded (.fresh founded.bundles))
  | update known transforms encoded current fresh valid =>
      have loaded := remembers.loaded ctx _ admitted known
      rw [transforms.environmentId, loaded.named] at current
      have before := accounted.rows _ _ current _ (loaded.decoded current fresh)
      obtain ⟨mutation, policyRef, verb, _, _, keeps, rfl⟩ := transforms
      exact Table.forall_insert accounted.rows (.encoded encoded (before.persist _ _ keeps))
  | @policy env precondition loaded index deployment artifact pin data row journal known transforms
      priced encoded current fresh valid =>
      have copy := remembers.loaded ctx _ admitted known
      have sameId := transforms.environmentId
      rw [sameId, copy.named] at current
      have before := accounted.rows _ _ current _ (copy.decoded current fresh)
      have apart : CustomersApart env := by
        obtain ⟨_, _, verb, _, _, _, rfl⟩ := transforms
        exact persist_customersApart _ _ verb before.apart
      intro envId found present
      by_cases own : envId = env.environmentId
      · subst own
        have written : found = docRow cfg.json data (row.generation + 1) :=
          Option.some.inj (present.symm.trans (AList.lookup_insert db.environments))
        rw [written]
        exact .encoded encoded (before.priced priced sameId apart)
      · have elsewhere : db.environments.lookup envId = some found :=
          (AList.lookup_insert_ne own).symm.trans present
        intro document decoded
        refine (accounted.rows envId found elsewhere document decoded).insert priced.numbered ?_
        intro same
        rw [keyed.environments envId found elsewhere document decoded] at same
        exact absurd same own
  | restore asked known brought unpacked decoded encoded current fresh valid =>
      have agreed := held.backup ctx _ admitted brought _ unpacked _ decoded
      exact Table.forall_insert accounted.rows (.encoded encoded agreed)
  | importEnv => exact absurd rfl (native _ _ _)
  | _ => exact accounted.rows

/-- The versions only a policy commit writes, and it leaves the backups. -/
theorem Effect.policies {now : Timestamp} {state : ServerState V} {reply : call.Reply}
    {after : Db V (ResponseBody V)} (effect : Effect cfg request k now state call reply after) :
    after.revenuePolicies = state.db.revenuePolicies ∨
      ∃ env precondition artifact pin journal,
        call = .updateEnvWithRevenuePolicy env precondition artifact pin journal ∧
        artifact.policyRef = sidecarRef artifact.bundleId artifact.customerId artifact.version ∧
        after.revenuePolicies =
          state.db.revenuePolicies.insert (artifact.key env.environmentId) artifact ∧
        after.backups = state.db.backups := by
  cases effect with
  | quiet same kept => exact .inl (by rw [same])
  | denial refused appended same kept =>
      rw [same]
      exact .inl rfl
  | commit admitted drafts journaled wrote learned =>
      have tables := journalInTx_sameTables wrote
      cases drafts with
      | policy known transforms priced encoded current fresh valid =>
          exact .inr ⟨_, _, _, _, _, rfl, priced.numbered, tables.revenuePolicies, tables.backups⟩
      | _ => exact .inl tables.revenuePolicies

theorem Held.of_same {P : EnvId → EnvSnapshot V → Prop} {after : Known V}
    (held : Held cfg P request k) (captured : after.captured = k.captured)
    (backup : after.backup = k.backup) : Held cfg P request after where
  captured := fun ctx snapshot revision admitted known =>
    held.captured ctx snapshot revision admitted (captured ▸ known)
  backup := fun ctx stored admitted known =>
    held.backup ctx stored admitted (backup ▸ known)

section Pools

variable {pool : ServerPool V} {index : Nat} {now : Timestamp} {task : ServerTask V}
variable {next : call.Reply → Program (Call V) StorageCall.Reply (Except RemoteStoreError (Response V))}

theorem mem_heldSnapshots_stored {key : EnvId × String} {backup : StoredBackup V}
    {snapshot : EnvSnapshot V} (stored : pool.shared.db.backups.lookup key = some backup)
    (unpacked : cfg.json.snapshot.fromValue backup.state = .ok snapshot) :
    snapshot ∈ heldSnapshots cfg pool := by
  refine List.mem_append_left _ (List.mem_filterMap.mpr ⟨⟨key, backup⟩, ?_, ?_⟩)
  · exact AList.mem_lookup_iff.mp stored
  · rw [unpacked]
    rfl

theorem mem_heldSnapshots_captured {other : ServerTask V} (member : other ∈ pool.tasks)
    (inFlight : other.InFlight) {snapshot : EnvSnapshot V} {revision : EnvRevision}
    (known : other.known.captured = some (snapshot, revision)) :
    snapshot ∈ heldSnapshots cfg pool := by
  refine List.mem_append_right _ (List.mem_flatMap.mpr ⟨other, ?_, List.mem_append_left _ ?_⟩)
  · exact List.mem_filter.mpr ⟨member, decide_eq_true inFlight⟩
  · rw [known]
    exact List.mem_singleton.mpr rfl

theorem mem_heldSnapshots_backup {other : ServerTask V} (member : other ∈ pool.tasks)
    (inFlight : other.InFlight) {backup : StoredBackup V} {snapshot : EnvSnapshot V}
    (known : other.known.backup = some backup)
    (unpacked : cfg.json.snapshot.fromValue backup.state = .ok snapshot) :
    snapshot ∈ heldSnapshots cfg pool := by
  refine List.mem_append_right _ (List.mem_flatMap.mpr ⟨other, ?_, List.mem_append_right _ ?_⟩)
  · exact List.mem_filter.mpr ⟨member, decide_eq_true inFlight⟩
  · rw [known, Option.bind_some, unpacked]
    exact List.mem_singleton.mpr rfl

/-- A held snapshot goes on agreeing when a version that fits is committed. -/
theorem agrees_committed {env : Environment} {precondition : Precondition}
    {artifact : RevenuePolicyArtifact} {pin : Option EnvRevision} {journal : Option (Journal V)}
    {rest : (StorageCall.updateEnvWithRevenuePolicy env precondition artifact pin journal :
      Call V).Reply → Program (Call V) StorageCall.Reply (Except RemoteStoreError (Response V))}
    (fits : VersionsFit cfg pool (.advance index now)) (found : pool.tasks[index]? = some task)
    (program : task.program =
      .call (.updateEnvWithRevenuePolicy env precondition artifact pin journal) rest)
    (numbered : artifact.policyRef =
      sidecarRef artifact.bundleId artifact.customerId artifact.version)
    {snapshot : EnvSnapshot V} (held : snapshot ∈ heldSnapshots cfg pool)
    (agrees : Agrees cfg pool.shared.db.revenuePolicies snapshot.environment) :
    Agrees cfg (pool.shared.db.revenuePolicies.insert (artifact.key env.environmentId) artifact)
      snapshot.environment := by
  intro document decoded
  refine (agrees document decoded).insert numbered ?_
  refine (fits task found).2 (env.environmentId, artifact) ?_ document ?_
  · rw [program]
    rfl
  · refine List.mem_filterMap.mpr ⟨snapshot, held, ?_⟩
    rw [decoded]
    rfl

/-- A turn under the condition keeps what holds of the snapshots: of the stored
ones, and of those of any request in flight. -/
theorem snapshots_step (fits : VersionsFit cfg pool (.advance index now))
    (found : pool.tasks[index]? = some task) (program : task.program = .call call next)
    {after : Db V (ResponseBody V)} {reply : call.Reply}
    (effect : Effect cfg task.tag task.known now pool.shared call reply after) :
    after.revenuePolicies = pool.shared.db.revenuePolicies ∨
      after.backups = pool.shared.db.backups ∧
      (learn task.known call reply).captured = task.known.captured ∧
      (learn task.known call reply).backup = task.known.backup ∧
      ∀ snapshot ∈ heldSnapshots cfg pool,
        Agrees cfg pool.shared.db.revenuePolicies snapshot.environment →
        Agrees cfg after.revenuePolicies snapshot.environment := by
  rcases effect.policies with same | ⟨env, precondition, artifact, pin, journal, rfl, numbered,
    inserted, backups⟩
  · exact .inl same
  · refine .inr ⟨backups, ?_, ?_, ?_⟩
    · cases reply <;> rfl
    · cases reply <;> rfl
    · intro snapshot held agrees
      rw [inserted]
      exact agrees_committed fits found program numbered held agrees

theorem HoldsAgreed.step {other : ServerTask V} {after : Db V (ResponseBody V)}
    (member : other ∈ pool.tasks) (inFlight : other.InFlight)
    (held : HoldsAgreed cfg pool.shared.db other.tag other.known)
    (carried : ∀ snapshot ∈ heldSnapshots cfg pool,
      Agrees cfg pool.shared.db.revenuePolicies snapshot.environment →
      Agrees cfg after.revenuePolicies snapshot.environment) :
    HoldsAgreed cfg after other.tag other.known where
  captured := fun ctx snapshot revision admitted known =>
    carried snapshot (mem_heldSnapshots_captured member inFlight known)
      (held.captured ctx snapshot revision admitted known)
  backup := fun ctx backup admitted known snapshot unpacked =>
    carried snapshot (mem_heldSnapshots_backup member inFlight known unpacked)
      (held.backup ctx backup admitted known snapshot unpacked)

abbrev KeepsPolicies (cfg : Config V) (pool : ServerPool V) : Prop :=
  (server cfg).Sound (permits cfg) (Ends cfg)
    (fun state => Keyed cfg state.db ∧ Accounted cfg state.db)
    (fun request k state => Remembers cfg request k state.db ∧
      HoldsAgreed cfg state.db request k) pool

theorem KeepsPolicies.documents (sound : KeepsPolicies cfg pool) : KeepsDocuments cfg pool :=
  sound.imp (fun _ => And.left) fun _ _ _ => And.left

theorem VersionsFit.native (fits : VersionsFit cfg pool (.advance index now))
    (found : pool.tasks[index]? = some task) (program : task.program = .call call next)
    (envId : EnvId) (snapshot : EnvSnapshot V) (journal : Option (Journal V)) :
    call ≠ .importEnv envId snapshot journal := by
  rintro rfl
  have none := (fits task found).1
  rw [program] at none
  cases none

theorem accounted_exec (fits : VersionsFit cfg pool (.advance index now))
    (found : pool.tasks[index]? = some task) (program : task.program = .call call next)
    (sound : KeepsPolicies cfg pool) :
    Accounted cfg ((server cfg).exec now pool.shared call).2.db := by
  obtain ⟨permitted, remembers, held⟩ := sound.acting found program
  obtain ⟨keyed, accounted⟩ := sound.inv
  have effect := effect_of_permitted now pool.shared permitted
  have step := snapshots_step fits found program effect
  change Accounted cfg (execute cfg.json cfg.ext ⟨pool.shared.auditCap, now⟩ pool.shared.db call).2
  generalize (execute cfg.json cfg.ext ⟨pool.shared.auditCap, now⟩ pool.shared.db call).2 = after
    at effect step
  cases effect with
  | quiet same kept =>
      rw [same]
      exact accounted
  | denial refused appended same kept =>
      rw [same]
      exact accounted.withAudit _
  | commit admitted drafts journaled wrote learned =>
      have tables := journalInTx_sameTables wrote
      refine ⟨?_, ?_⟩
      · rw [tables.environments, tables.revenuePolicies]
        exact drafts_rows admitted keyed accounted remembers held
          (fits.native found program) drafts
      · rcases step with same | ⟨backups, _, _, carried⟩
        · rw [same]
          exact (drafts_stored admitted accounted.backups held drafts).sameTables tables
        · intro key backup present snapshot unpacked
          rw [backups] at present
          exact carried snapshot (mem_heldSnapshots_stored present unpacked)
            (accounted.backups key backup present snapshot unpacked)

end Pools

theorem loadEnvSnapshot_agrees (accounted : Accounted cfg db) (envId : EnvId)
    (snapshot : EnvSnapshot V) (revision : EnvRevision)
    (returned : Store.loadEnvSnapshot db envId = .ok (snapshot, revision)) :
    Agrees cfg db.revenuePolicies snapshot.environment := by
  unfold loadEnvSnapshot at returned
  split at returned
  · cases returned
  · rename_i row current
    cases returned
    exact accounted.rows envId row current

theorem policies_rules (cfg : Config V) : (server cfg).Rules (VersionsFit cfg) (permits cfg)
    (Ends cfg) (fun state => Keyed cfg state.db ∧ Accounted cfg state.db)
    (fun request k state => Remembers cfg request k state.db ∧
      HoldsAgreed cfg state.db request k) where
  body := serve_obeys cfg
  start := fun request state _ => ⟨.nothing request state.db, .nothing request⟩
  reset := by
    rintro pool event _ ⟨keyed, accounted⟩
    refine ⟨(updates_rules cfg).reset pool event trivial keyed, ?_⟩
    obtain ⟨audit, swept⟩ :=
      reconcileAuditRetention_audit pool.shared.db (auditCapOf event.1) event.2
    have after : Accounted cfg (reconcileAuditRetention pool.shared.db (auditCapOf event.1)
        event.2) := by
      rw [swept]
      exact accounted.withAudit audit
    exact after
  inv := fun pool index now task call next fits found program sound =>
    ⟨(updates_rules cfg).inv pool index now task call next trivial found program
        (KeepsPolicies.documents sound),
      accounted_exec fits found program sound⟩
  learned := by
    intro pool index now task call next fits found program sound
    refine ⟨(updates_rules cfg).learned pool index now task call next trivial found program
      (KeepsPolicies.documents sound), ?_⟩
    obtain ⟨permitted, _, held⟩ := sound.acting found program
    rcases snapshots_step fits found program (effect_of_permitted now pool.shared permitted) with
      same | ⟨_, captured, backup, carried⟩
    · have learned := held.learn sound.inv.2.backups (loadEnvSnapshot_agrees sound.inv.2) permitted
        (learns cfg ⟨pool.shared.auditCap, now⟩ _ _ _)
      rw [← same] at learned
      exact learned
    · exact (held.step (List.mem_of_getElem? found) ⟨call, next, program⟩ carried).of_same captured
        backup
  stable := by
    intro pool index now task call next fits found program sound other member inFlight both
    refine ⟨(updates_rules cfg).stable pool index now task call next trivial found program
      (KeepsPolicies.documents sound) other member inFlight both.1, ?_⟩
    obtain ⟨permitted, _, _⟩ := sound.acting found program
    rcases snapshots_step fits found program (effect_of_permitted now pool.shared permitted) with
      same | ⟨_, _, _, carried⟩
    · have held := both.2
      rw [HoldsAgreed, ← same] at held
      exact held
    · exact both.2.step member inFlight carried

/-- Runs without imports whose policy commits fit the documents held in backups. -/
def pricedRuns (cfg : Config V) : System (ServerPool V) (ServerAction V) :=
  (server cfg).system (VersionsFit cfg)

/-- Revenue policy agreement. In every such run, in every state reached, each
deployment that pins a policy pins one stored for its environment and signed for
its own share. -/
theorem revenue_policy_agreement (cfg : Config V) (maxRows : Option UInt32)
    (actions : List (ServerAction V))
    (admits : (pricedRuns cfg).Admits (boot maxRows) actions) :
    ∀ pool ∈ (pricedRuns cfg).states (boot maxRows) actions,
      ∀ envId row env, pool.shared.db.environments.lookup envId = some row →
        cfg.json.environment.fromValue row.data = .ok env →
        ∀ b ∈ env.bundles, b.revenuePolicyRef ≠ "" → ∃ version artifact,
          b.revenuePolicyRef = sidecarRef b.bundleId b.customerId version ∧
          pool.shared.db.revenuePolicies.lookup ⟨envId, b.bundleId, b.customerId, version⟩ =
            some artifact ∧
          artifact.policyRef = b.revenuePolicyRef ∧
          artifact.doc.revenueShare = b.revenueShare := by
  intro pool visited envId row env present decoded b deployed
  have sound : KeepsPolicies cfg pool :=
    (pricedRuns cfg).invariant _ ((server cfg).sound_step (policies_rules cfg)) _ actions admits
      ((server cfg).sound_empty ⟨.empty, .empty⟩) pool visited
  have backed := (sound.inv.2.rows envId row present env decoded).backed (accountOf b)
    (List.mem_map.mpr ⟨b, deployed, rfl⟩)
  rw [sound.inv.1.environments envId row present env decoded] at backed
  exact backed

instance (cfg : Config V) (pool : ServerPool V) (actions : List (ServerAction V)) :
    Decidable ((pricedRuns cfg).Admits pool actions) :=
  @System.decidableAdmits _ _ (pricedRuns cfg)
    (fun pool action => inferInstanceAs (Decidable (VersionsFit cfg pool action))) pool actions

def demoShare (party : String) : List RevenueShareEntry := [⟨⟨party⟩, 10000⟩]

def demoAdd (party : String) : Mutation PlainValue :=
  .addBundle (.ok ⟨"local"⟩) { demoBundle with revenueShare := demoShare party }

/-- A bundle is added and backed up. -/
def backedUp : List (ServerAction PlainValue) :=
  served 0 (demoRequest none "a" demoCreate) ++
    served 1 (demoRequest none "b" (.bootstrapTrustRoot (.ok ⟨"local"⟩))) ++
    served 2 (demoRequest none "c" (demoAdd "alice")) ++
    served 3 (demoRequest none "d" (.createBackup (.ok ⟨"local"⟩)))

/-- Its share changes, under the next number, and the backup is restored. -/
def repriced : List (ServerAction PlainValue) :=
  backedUp ++
    served 4 (demoRequest none "e" (.updateBundle (.ok ⟨"local"⟩) (.ok ⟨1⟩)
      ⟨⟨1⟩, none, none, none, some (demoShare "bob"), none⟩)) ++
    served 5 (demoRequest none "f" (.restoreEnvironment (.ok ⟨"local"⟩) "d" ⟨none, some 3⟩))

theorem revenue_policy_agreement_repriced :
    ((pricedRuns (demoConfig .openDev)).run (boot none)
      repriced).shared.db.revenuePolicies.keys.length = 2 ∧
    ∀ pool ∈ (pricedRuns (demoConfig .openDev)).states (boot none) repriced,
      ∀ envId row env, pool.shared.db.environments.lookup envId = some row →
        (demoConfig .openDev).json.environment.fromValue row.data = .ok env →
        ∀ b ∈ env.bundles, b.revenuePolicyRef ≠ "" → ∃ version artifact,
          b.revenuePolicyRef = sidecarRef b.bundleId b.customerId version ∧
          pool.shared.db.revenuePolicies.lookup ⟨envId, b.bundleId, b.customerId, version⟩ =
            some artifact ∧
          artifact.policyRef = b.revenuePolicyRef ∧
          artifact.doc.revenueShare = b.revenueShare :=
  ⟨by decide +kernel,
    revenue_policy_agreement (demoConfig .openDev) none repriced (by decide +kernel)⟩

def demoReadd : Request PlainValue :=
  let request := demoRequest none "f" (demoAdd "bob")
  { request with head := { request.head with deploymentId := ⟨2⟩ } }

/-- The bundle is removed and added again with another share, under the first
number once more, and the backup is restored. -/
def readded : List (ServerAction PlainValue) :=
  backedUp ++
    served 4 (demoRequest none "e" (.removeBundle (.ok ⟨"local"⟩) (.ok ⟨1⟩))) ++
    served 5 demoReadd ++
    served 6 (demoRequest none "g" (.restoreEnvironment (.ok ⟨"local"⟩) "d" ⟨none, some 4⟩))

def bringsImport : ServerAction V → Bool
  | .arrive request =>
    match request.route with
    | .mutate (.importEnvironment _ _) => true
    | _ => false
  | _ => false

def storedAccounts (cfg : Config V) (db : Db V (ResponseBody V)) (envId : EnvId) :
    Option (List Account) :=
  (db.environments.lookup envId).bind fun row =>
    (cfg.json.environment.fromValue row.data).toOption.map accounts

theorem storedAccounts_singleton {envId : EnvId} {account : Account}
    (stored : storedAccounts cfg db envId = some [account]) :
    ∃ row env b, db.environments.lookup envId = some row ∧
      cfg.json.environment.fromValue row.data = .ok env ∧ b ∈ env.bundles ∧
      accountOf b = account := by
  obtain ⟨row, present, read⟩ := Option.bind_eq_some_iff.mp stored
  obtain ⟨env, decoded, same⟩ := Option.map_eq_some_iff.mp read
  have member : account ∈ accounts env := by
    rw [same]
    exact List.mem_singleton.mpr rfl
  obtain ⟨b, deployed, own⟩ := List.mem_map.mp member
  refine ⟨row, env, b, present, ?_, deployed, own⟩
  cases outcome : cfg.json.environment.fromValue row.data with
  | error e =>
      rw [outcome] at decoded
      cases decoded
  | ok document =>
      rw [outcome] at decoded
      cases decoded
      rfl

/-- The restored deployment pins the first version with its own share; the
version stored under that number is the later one. -/
theorem restored_deployment_disagrees :
    ¬ ∀ (maxRows : Option UInt32) (actions : List (ServerAction PlainValue)),
      (∀ action ∈ actions, bringsImport action = false) →
      ∀ envId row env, ((serverRuns (demoConfig .openDev)).run (boot maxRows)
          actions).shared.db.environments.lookup envId = some row →
        (demoConfig .openDev).json.environment.fromValue row.data = .ok env →
        ∀ b ∈ env.bundles, b.revenuePolicyRef ≠ "" → ∃ key artifact,
          ((serverRuns (demoConfig .openDev)).run (boot maxRows)
            actions).shared.db.revenuePolicies.lookup key = some artifact ∧
          key.envId = envId ∧ artifact.policyRef = b.revenuePolicyRef ∧
          artifact.doc.revenueShare = b.revenueShare := by
  intro claim
  have pinned : storedAccounts (demoConfig .openDev) ((serverRuns (demoConfig .openDev)).run
      (boot none) readded).shared.db ⟨"local"⟩ = some [⟨⟨"demo"⟩, ⟨"local-dev"⟩, demoShare "alice",
        "billing-policies/demo/local-dev/v1.json.sig"⟩] := by decide +kernel
  have shares : ∀ entry ∈ ((serverRuns (demoConfig .openDev)).run (boot none)
      readded).shared.db.revenuePolicies.entries,
      entry.2.doc.revenueShare = demoShare "bob" := by decide +kernel
  obtain ⟨row, env, b, present, decoded, deployed, account⟩ := storedAccounts_singleton pinned
  have alice : b.revenueShare = demoShare "alice" := congrArg Account.revenueShare account
  have reference : b.revenuePolicyRef = "billing-policies/demo/local-dev/v1.json.sig" :=
    congrArg Account.revenuePolicyRef account
  obtain ⟨key, artifact, stored, _, _, share⟩ :=
    claim none readded (by decide) ⟨"local"⟩ row env present decoded b deployed
      (by rw [reference]; decide)
  have bob := shares ⟨key, artifact⟩ (AList.mem_lookup_iff.mp stored)
  exact absurd (bob.symm.trans (share.trans alice)) (by decide)

end GreenticDeployer.Server
