import GreenticDeployer.Engine.Accounts
import GreenticDeployer.Server.Routes

/-!
# The protocol of the handlers

What a request in flight has learned from its own replies, which calls that
knowledge permits, and what its outcome then is. Every handler is shown to obey
the protocol once; the safety of the whole server is derived from it.
-/

set_option maxHeartbeats 200000

namespace GreenticDeployer.Server

open Spec Engine Store Trust Lib

variable {V : Type}

structure Known (V : Type) where
  loaded : Option (Loaded Environment)
  captured : Option (EnvSnapshot V × EnvRevision)
  backup : Option (StoredBackup V)
  /-- The ledger row a lookup found. -/
  found : Option (Record V)
  /-- A lookup has found no row. -/
  passed : Bool
  /-- The journal a call of this request committed. -/
  committed : Option (Journal V)

def Known.nothing : Known V := ⟨none, none, none, none, false, none⟩

def learn (k : Known V) : (call : Call V) → call.Reply → Known V
  | .loadEnv _, .ok loaded => { k with loaded := some loaded }
  | .loadEnvSnapshot _, .ok captured => { k with captured := some captured }
  | .loadBackup _ _, .ok (some backup) => { k with backup := some backup }
  | .lookupIdempotency _ _, .ok (some record) => { k with found := some record }
  | .lookupIdempotency _ _, .ok none => { k with passed := true }
  | .recordJournal journal, .ok _ => { k with committed := some journal }
  | .createEnv _ journal, .ok _ => { k with committed := journal }
  | .updateEnv _ _ journal, .ok _ => { k with committed := journal }
  | .updateEnvWithRevenuePolicy _ _ _ _ journal, .ok _ => { k with committed := journal }
  | .upsertTrustRoot _ _ _ journal, .ok _ => { k with committed := journal }
  | .createBackup _ journal, .ok _ => { k with committed := journal }
  | .deleteBackup _ _ journal, .ok true => { k with committed := journal }
  | .restoreEnv _ _ _ journal, .ok _ => { k with committed := journal }
  | .importEnv _ _ journal, .ok _ => { k with committed := journal }
  | _, _ => k

/-- A journal that commits the request it belongs to. -/
structure Journaled (ctx : Context) (journal : Journal V) : Prop where
  envId : journal.envId = ctx.envId
  key : journal.idempotencyKey = ctx.idemKey.asStr
  fingerprint : journal.requestFingerprint = ctx.head.fingerprint

/-- The committed document is the request's verb applied to the loaded one. -/
def Transforms (cfg : Config V) (request : Request V) (ctx : Context) (before after : Environment)
    (admits : Verb → Prop) : Prop :=
  ∃ mutation policyRef verb, request.route = .mutate mutation ∧
    mutation.engineVerb ctx.head ctx.idemKey policyRef = some verb ∧ admits verb ∧
    after = persist cfg.serde cfg.ext before verb

structure Priced (before after : Environment) (index : Nat) (deployment : BundleDeployment)
    (artifact : RevenuePolicyArtifact) : Prop where
  at_index : after.bundles[index]? = some deployment
  bundle : artifact.bundleId = deployment.bundleId
  customer : artifact.customerId = deployment.customerId
  reference : deployment.revenuePolicyRef = artifact.policyRef
  numbered : artifact.policyRef = sidecarRef artifact.bundleId artifact.customerId artifact.version
  share : artifact.doc.revenueShare = deployment.revenueShare
  others : ∀ other b, other ≠ index → after.bundles[other]? = some b → b ∈ before.bundles

inductive Permits (cfg : Config V) (request : Request V) (ctx : Context) (k : Known V) :
    Call V → Prop
  | lookup : Permits cfg request ctx k (.lookupIdempotency ctx.envId ctx.idemKey.asStr)
  | loadEnv : Permits cfg request ctx k (.loadEnv ctx.envId)
  | loadRoot : Permits cfg request ctx k (.loadTrustRoot ctx.envId)
  | loadBackup (id) : Permits cfg request ctx k (.loadBackup ctx.envId id)
  | capture : Permits cfg request ctx k (.loadEnvSnapshot ctx.envId)
  | record {loaded journal} (known : k.loaded = some loaded) (journaled : Journaled ctx journal) :
      Permits cfg request ctx k (.recordJournal journal)
  | create {env journal} (named : env.environmentId = ctx.envId)
      (founds : ∃ mutation, request.route = .mutate mutation ∧ mutation.Founds env)
      (journaled : Journaled ctx journal) :
      Permits cfg request ctx k (.createEnv env (some journal))
  | update {env precondition loaded journal} (known : k.loaded = some loaded)
      (pinned : precondition.expectedGeneration = some loaded.revision.generation)
      (transforms : Transforms cfg request ctx loaded.value env fun verb => keepsAccounts verb = true)
      (journaled : Journaled ctx journal) :
      Permits cfg request ctx k (.updateEnv env precondition (some journal))
  | policy {env precondition loaded index deployment artifact trustRootPin journal}
      (known : k.loaded = some loaded)
      (pinned : precondition.expectedGeneration = some loaded.revision.generation)
      (transforms : Transforms cfg request ctx loaded.value env fun _ => True)
      (priced : Priced loaded.value env index deployment artifact) (journaled : Journaled ctx journal) :
      Permits cfg request ctx k
        (.updateEnvWithRevenuePolicy env precondition artifact trustRootPin (some journal))
  | trustRoot {doc precondition loaded journal} (known : k.loaded = some loaded)
      (journaled : Journaled ctx journal) :
      Permits cfg request ctx k (.upsertTrustRoot ctx.envId doc precondition (some journal))
  | backup {backup journal snapshot revision} (known : k.captured = some (snapshot, revision))
      (encoded : cfg.json.snapshot.toValue snapshot = .ok backup.state)
      (named : backup.manifest.envId = ctx.envId) (journaled : Journaled ctx journal) :
      Permits cfg request ctx k (.createBackup backup (some journal))
  | dropBackup {id loaded journal} (known : k.loaded = some loaded)
      (journaled : Journaled ctx journal) :
      Permits cfg request ctx k (.deleteBackup ctx.envId id (some journal))
  | restore {snapshot precondition loaded backup journal}
      (asked : ∃ segment id pin, request.route = .mutate (.restoreEnvironment segment id pin))
      (known : k.loaded = some loaded)
      (pinned : precondition.expectedGeneration = some loaded.revision.generation)
      (held : k.backup = some backup)
      (decoded : cfg.json.snapshot.fromValue backup.state = .ok snapshot)
      (journaled : Journaled ctx journal) :
      Permits cfg request ctx k (.restoreEnv ctx.envId snapshot precondition (some journal))
  | importEnv {snapshot journal}
      (asked : ∃ segment artifact, request.route = .mutate (.importEnvironment segment artifact))
      (journaled : Journaled ctx journal) :
      Permits cfg request ctx k (.importEnv ctx.envId snapshot (some journal))

/-- The calls any request may make: none once it has committed or found its row,
and in front of the gate only the audit of its denial and the export's read. -/
def permits (cfg : Config V) (request : Request V) (k : Known V) (call : Call V) : Prop :=
  k.found = none ∧ k.committed = none ∧
    match request.admission cfg with
    | some ctx => Permits cfg request ctx k call
    | none => (∃ envId eventId event, call = .recordAudit envId eventId event) ∨
        ∃ envId id, call = .loadBackup envId id

def respond (journal : Journal V) : Response V := ⟨journal.responseStatus, journal.responseBody⟩

/-- The outcome of a request, given what it has learned. -/
structure Ends (cfg : Config V) (request : Request V) (k : Known V)
    (result : Except RemoteStoreError (Response V)) : Prop where
  committed : ∀ journal, k.committed = some journal → result = .ok (respond journal)
  replayed : ∀ record, k.found = some record →
    record.requestFingerprint = request.head.fingerprint → result = .ok (replay record)
  reused : ∀ record, k.found = some record →
    record.requestFingerprint ≠ request.head.fingerprint → ∃ e, result = .error e ∧
      (k.passed = false → ∃ ctx, request.admission cfg = some ctx ∧
        e = reusedKey ctx.envId ctx.idemKey.asStr record)
  /-- Behind the gate a success is the request's own commit or a replay. -/
  answered : ∀ ctx response, request.admission cfg = some ctx → result = .ok response →
    k.committed ≠ none ∨ k.found ≠ none

structure Open (k : Known V) : Prop where
  found : k.found = none
  committed : k.committed = none
  passed : k.passed = true

/-- Behind the gate with the document loaded. -/
structure Ready (k : Known V) : Prop extends Open k where
  loaded : ∃ loaded, k.loaded = some loaded

def Recourse : Program (Call V) StorageCall.Reply (Except RemoteStoreError (Response V)) → Prop
  | .done _ => True
  | .call call next => ∀ reply, Recourse (next reply) ∧ ∀ e, next reply = .done (.error e) →
      (∃ envId key, call = .lookupIdempotency envId key) ∨
      (∃ storage, reply = .error storage) ∧
        ((∃ envId, call = .loadEnv envId) ∨ ∃ envId, call = .loadTrustRoot envId)

/-- How the part of a handler behind the gate leaves off. -/
def Settles (k : Known V) : Except RemoteStoreError (Response V) → Prop
  | .ok response => k.found = none ∧ ∃ journal, k.committed = some journal ∧
      response = respond journal
  | .error _ => Open k

end GreenticDeployer.Server
