import GreenticDeployer.Server.HandlerCalls
import GreenticDeployer.Server.System
import GreenticDeployer.Store.TrustRoots

/-!
# Who writes and who trusts a trust root

A second protocol for the same handlers: what a request has last read of a trust
root, and that its write of one, and the policy it signs, go by that reading. The
handlers that do neither are set apart by the calls they make.
-/

set_option maxHeartbeats 200000

namespace GreenticDeployer.Server

open Spec Engine Store Trust Lib

variable {V : Type}

/-- What a request asks of a list of trusted keys. -/
inductive RootEdit where
  | add (entry : TrustedKey)
  | remove (keyId : String)
  deriving DecidableEq

def RootEdit.apply (keys : List TrustedKey) : RootEdit → List TrustedKey
  | .add entry => applyAdd keys entry
  | .remove keyId => (applyRemove keys keyId).2

def operatorEntry (cfg : Config V) (head : Head) : Except RemoteStoreError TrustedKey := do
  let opKey ← loadServerOperatorKey head
  checkTrustedKey cfg ⟨opKey.keyId, opKey.publicPem⟩

def Request.rootEdit (cfg : Config V) (request : Request V) : Option RootEdit :=
  match request.route with
  | .mutate (.addTrustedKey _ key) => (checkTrustedKey cfg key).toOption.map .add
  | .mutate (.removeTrustedKey _ keyId) => some (.remove keyId)
  | .mutate (.bootstrapTrustRoot _) => (operatorEntry cfg request.head).toOption.map .add
  | .mutate (.seedTrustRoot _) => (operatorEntry cfg request.head).toOption.map .add
  | _ => none

/-- The key a request adds for sure if it succeeds: a seed may find the row and
leave it. -/
def Request.adds (cfg : Config V) (request : Request V) : Option (EnvId × TrustedKey) :=
  match request.route with
  | .mutate (.addTrustedKey (.ok envId) key) =>
    (checkTrustedKey cfg key).toOption.map fun entry => (envId, entry)
  | .mutate (.bootstrapTrustRoot (.ok envId)) =>
    (operatorEntry cfg request.head).toOption.map fun entry => (envId, entry)
  | _ => none

/-- What a request remembers of what it read, and of which environment. -/
structure RootKnown (V : Type) where
  root : Option (EnvId × Option (Loaded TrustRootDocument))
  loaded : Option (EnvId × Loaded Environment)
  /-- The ledger row a lookup found. -/
  found : Option (EnvId × Record V)
  /-- The environment whose trust root this request has written. -/
  edited : Option EnvId

def RootKnown.nothing : RootKnown V := ⟨none, none, none, none⟩

def learnRoot (k : RootKnown V) : (call : Call V) → call.Reply → RootKnown V
  | .loadTrustRoot envId, .ok root => { k with root := some (envId, root) }
  | .loadEnv envId, .ok loaded => { k with loaded := some (envId, loaded) }
  | .lookupIdempotency envId _, .ok (some record) => { k with found := some (envId, record) }
  | .upsertTrustRoot envId _ _ _, .ok _ => { k with edited := some envId }
  | _, _ => k

structure SignedBy (cfg : Config V) (root : TrustRoot) (artifact : RevenuePolicyArtifact) :
    Prop where
  signed : ∃ statement privatePem,
    cfg.signing.signStatement statement privatePem artifact.keyId = .ok artifact.envelope
  listed : ∃ key ∈ root.keys, eqIgnoreAsciiCase key.keyId artifact.keyId = true
  verifies : cfg.signing.verifyArtifactDsse artifact.envelope artifact.docSha256 root = .ok ()

/-- A trust root is written as the request's edit of the one it read, under the
pin of that reading; a policy is committed under the pin of the root it was
signed against. An addition commits in no other way than by its write. -/
def rootPermits (cfg : Config V) (request : Request V) (k : RootKnown V) : Call V → Prop
  | .upsertTrustRoot envId doc precondition _ => ∃ current edit,
      k.root = some (envId, current) ∧ request.rootEdit cfg = some edit ∧
      doc = { (docAndPrecondition current).1 with
        keys := edit.apply (docAndPrecondition current).1.keys } ∧
      precondition = (docAndPrecondition current).2
  | .updateEnvWithRevenuePolicy env _ artifact trustRootPin _ => request.adds cfg = none ∧
      ∃ envId loaded current root,
        k.loaded = some (envId, loaded) ∧ env.environmentId = loaded.value.environmentId ∧
        k.root = some (envId, current) ∧ trustRootPin = current.map (·.revision) ∧
        trustRootOf current = .ok root ∧ SignedBy cfg root artifact
  | .recordJournal _ => request.adds cfg = none
  | .createEnv .. => request.adds cfg = none
  | .updateEnv .. => request.adds cfg = none
  | .createBackup .. => request.adds cfg = none
  | .deleteBackup .. => request.adds cfg = none
  | .restoreEnv .. => request.adds cfg = none
  | .importEnv .. => request.adds cfg = none
  | _ => True

/-- An addition that succeeds was written, or is answered with the response that
the ledger holds for it. -/
def RootEnds (cfg : Config V) (request : Request V) (k : RootKnown V)
    (result : Except RemoteStoreError (Response V)) : Prop :=
  ∀ response envId entry, result = .ok response → request.adds cfg = some (envId, entry) →
    k.edited = some envId ∨
    ∃ record, k.found = some (envId, record) ∧
      record.requestFingerprint = request.head.fingerprint ∧ response = replay record

/-- The calls that touch no trust root and trust none. -/
def plain : Call V → Prop
  | .upsertTrustRoot .. => False
  | .updateEnvWithRevenuePolicy .. => False
  | _ => True

/-- A body that makes plain calls only. -/
abbrev Plain {α : Type} (program : Handling V α) : Prop := program.run.Only plain

def PlainHandler (handler : Handler V) : Prop :=
  ∀ headers body, handler.enter headers = .ok body → ∀ ctx, Plain (body ctx)

theorem Mutation.makes_plain {cfg : Config V} {mutation : Mutation V} (rootless : mutation.rooted = false)
    {call : Call V} (made : mutation.makes cfg call) : plain call := by
  cases call with
  | upsertTrustRoot envId doc precondition journal => exact absurd (rootless.symm.trans made) nofun
  | updateEnvWithRevenuePolicy env precondition artifact pin journal =>
      exact absurd (rootless.symm.trans made) nofun
  | _ => exact trivial

theorem handler_plain {cfg : Config V} {head : Head} {mutation : Mutation V} {handler : Handler V}
    (rootless : mutation.rooted = false) (built : mutation.handler cfg head = .ok handler) :
    PlainHandler handler := fun headers body entered ctx =>
  (handler_makes built headers body entered ctx).mono fun _ made =>
    Mutation.makes_plain rootless made

section Rooted

variable {cfg : Config V} {request : Request V} {ctx : Context} {k : RootKnown V}

/-- A program that follows the trust-root protocol from knowledge `k` on. -/
abbrev Trusts {α : Type} (cfg : Config V) (request : Request V)
    (post : RootKnown V → Except RemoteStoreError α → Prop) (k : RootKnown V)
    (program : Handling V α) : Prop :=
  program.run.Obeys (rootPermits cfg request) learnRoot post k

def RootConforms (cfg : Config V) (request : Request V) (handler : Handler V) : Prop :=
  ∀ ctx body, ctx.envId = handler.envId → ctx.head = request.head →
    handler.enter request.head.headers = .ok body →
    Trusts cfg request (RootEnds cfg request) RootKnown.nothing (body ctx)

theorem RootEnds.failed (e : RemoteStoreError) : RootEnds cfg request k (.error e) := by
  intro response envId entry wrong
  cases wrong

/-- The environment whose trust root an addition is for. -/
def AddsTo (cfg : Config V) (request : Request V) (envId : EnvId) : Prop :=
  ∀ other entry, request.adds cfg = some (other, entry) → other = envId

theorem AddsTo.of_none (nothing : request.adds cfg = none) (envId : EnvId) :
    AddsTo cfg request envId := by
  intro other entry asked
  rw [nothing] at asked
  cases asked

theorem RootEnds.replayed {envId : EnvId} {record : Record V} (adds : AddsTo cfg request envId)
    (found : k.found = some (envId, record))
    (same : record.requestFingerprint = request.head.fingerprint) :
    RootEnds cfg request k (.ok (replay record)) := by
  rintro response other entry ⟨⟩ asked
  rw [adds other entry asked]
  exact .inr ⟨record, found, same, rfl⟩

theorem RootEnds.of_none (nothing : request.adds cfg = none)
    (result : Except RemoteStoreError (Response V)) : RootEnds cfg request k result := by
  intro response envId entry _ asked
  rw [nothing] at asked
  cases asked

theorem trusts_lift {α β : Type} {post : RootKnown V → Except RemoteStoreError β → Prop}
    {outcome : Except RemoteStoreError α} {f : α → Handling V β}
    (fails : ∀ e, post k (.error e))
    (rest : ∀ a, outcome = .ok a → Trusts cfg request post k (f a)) :
    Trusts cfg request post k (Program.lift outcome >>= f) := by
  cases outcome with
  | ok a => exact rest a rfl
  | error e => exact fails e

theorem trusts_ask {β : Type} {post : RootKnown V → Except RemoteStoreError β → Prop}
    {call : Call V} {onError : StorageError → RemoteStoreError} {f : call.Result → Handling V β}
    (may : rootPermits cfg request k call)
    (fails : ∀ storage e, post (learnRoot k call (.error storage)) (.error e))
    (rest : ∀ result, Trusts cfg request post (learnRoot k call (.ok result)) (f result)) :
    Trusts cfg request post k (ask call onError >>= f) := by
  refine ⟨may, ?_⟩
  intro reply
  cases reply with
  | ok result => exact rest result
  | error storage => exact fails storage _

theorem trusts_errorOrReplay (adds : AddsTo cfg request ctx.envId) (own : ctx.head = request.head)
    (e : RemoteStoreError) (k : RootKnown V) :
    Trusts cfg request (RootEnds cfg request) k (errorOrReplay ctx e) := by
  refine ⟨trivial, ?_⟩
  intro reply
  cases reply with
  | error storage => exact RootEnds.failed e
  | ok found =>
      cases found with
      | none => exact RootEnds.failed e
      | some record =>
          dsimp only [Program.bind]
          split
          · rename_i answer gate
            split at gate
            · cases gate
            · rename_i _ same
              cases gate
              rw [own] at same
              exact RootEnds.replayed adds rfl (not_not.mp same)
          · exact RootEnds.failed e

theorem trusts_withReplay {body : Handling V (Response V)} (adds : AddsTo cfg request ctx.envId)
    (own : ctx.head = request.head) (trusts : Trusts cfg request (RootEnds cfg request) k body) :
    Trusts cfg request (RootEnds cfg request) k (withReplay ctx body) :=
  Program.Obeys.rescue trusts (fun _ _ ended => ended) fun k e _ =>
    trusts_errorOrReplay adds own e k

theorem trustRootMutation_trusts {segment : Segment EnvId} {name : String}
    {body : Context → EnvRevision → Option (Loaded TrustRootDocument) → Handling V (Response V)}
    {handler : Handler V} (built : trustRootMutation segment name body = .ok handler)
    (adds : ∀ envId, segment = .ok envId → AddsTo cfg request envId)
    (trusts : ∀ ctx revision current k, segment = .ok ctx.envId → ctx.head = request.head →
      k.root = some (ctx.envId, current) →
      Trusts cfg request (RootEnds cfg request) k (body ctx revision current)) :
    RootConforms cfg request handler := by
  obtain ⟨id, parsed, built⟩ := bind_ok built
  cases built
  rintro ctx behind rfl own ⟨⟩
  refine trusts_ask trivial (fun _ e => RootEnds.failed e) fun loaded => ?_
  refine trusts_ask trivial (fun _ e => RootEnds.failed e) fun current => ?_
  exact trusts_withReplay (adds ctx.envId (mapError_ok parsed)) own
    (trusts ctx _ current _ (mapError_ok parsed) own rfl)

/-- Each attempt writes the edit of what was read last. -/
theorem trusts_persistTrustRootMutation (edit : RootEdit) {onRace : FirstWriteRace}
    {mutate : TrustRootDocument → TrustRootDocument}
    {prepare : Nat → TrustRootDocument → PreparedMutation V}
    (asked : request.rootEdit cfg = some edit)
    (edits : ∀ doc, mutate doc = { doc with keys := edit.apply doc.keys })
    (attempts : Nat) (current : Option (Loaded TrustRootDocument)) (k : RootKnown V)
    (read : k.root = some (ctx.envId, current)) :
    Trusts cfg request (fun k' outcome => ∀ prepared, outcome = .ok (some prepared) →
        k'.edited = some ctx.envId) k
      (persistTrustRootMutation ctx onRace mutate prepare attempts current) := by
  have fails : ∀ (k' : RootKnown V) (e : RemoteStoreError) (prepared : PreparedMutation V),
      (.error e : Except RemoteStoreError (Option (PreparedMutation V))) = .ok (some prepared) →
      k'.edited = some ctx.envId := by
    intro k' e prepared wrong
    cases wrong
  induction attempts generalizing current k with
  | zero => exact fails _ _
  | succ attempts ih =>
      refine ⟨⟨current, edit, read, asked, edits _, rfl⟩, ?_⟩
      intro reply
      cases reply with
      | ok revision => exact fun _ _ => rfl
      | error e =>
          cases e with
          | preconditionRequired =>
              cases current with
              | some loaded => exact fails _ _
              | none =>
                  cases onRace with
                  | noOp =>
                      intro prepared wrong
                      cases wrong
                  | retry =>
                      refine trusts_ask trivial (fun _ e => fails _ e) ?_
                      intro reloaded
                      exact ih reloaded _ rfl
          | _ => exact fails _ _

theorem trusts_expectPersisted {granting : Handling V (Option (PreparedMutation V))}
    (adds : AddsTo cfg request ctx.envId)
    (grants : Trusts cfg request (fun k' outcome => ∀ prepared, outcome = .ok (some prepared) →
      k'.edited = some ctx.envId) k granting) :
    Trusts cfg request (RootEnds cfg request) k (granting >>= expectPersisted) := by
  refine Program.Obeys.andThen grants (fun _ e _ => RootEnds.failed e) ?_
  intro k' granted written
  cases granted with
  | none => exact RootEnds.failed _
  | some prepared =>
      intro response envId entry _ asked
      rw [adds envId entry asked]
      exact .inl (written prepared rfl)

theorem operatorEntry_ok {head : Head} {opKey : OperatorKey} {entry : TrustedKey}
    (held : loadServerOperatorKey head = .ok opKey)
    (checked : checkTrustedKey cfg ⟨opKey.keyId, opKey.publicPem⟩ = .ok entry) :
    operatorEntry cfg head = .ok entry := by
  rw [operatorEntry, held]
  exact checked

theorem trusts_grantOperatorKey {onRace : FirstWriteRace}
    {prepare : Nat → TrustRootSeed → PreparedMutation V}
    {current : Option (Loaded TrustRootDocument)} (own : ctx.head = request.head)
    (asked : request.rootEdit cfg = (operatorEntry cfg request.head).toOption.map .add)
    (read : k.root = some (ctx.envId, current)) :
    Trusts cfg request (fun k' outcome => ∀ prepared, outcome = .ok (some prepared) →
      k'.edited = some ctx.envId) k (grantOperatorKey cfg ctx current onRace prepare) := by
  have fails : ∀ (e : RemoteStoreError) (prepared : PreparedMutation V),
      (.error e : Except RemoteStoreError (Option (PreparedMutation V))) = .ok (some prepared) →
      k.edited = some ctx.envId := by
    intro e prepared wrong
    cases wrong
  refine trusts_lift fails ?_
  intro opKey held
  refine trusts_lift fails ?_
  intro entry checked
  rw [own] at held
  refine trusts_persistTrustRootMutation (.add entry) ?_ (fun _ => rfl) 2 current k read
  rw [asked, operatorEntry_ok held checked]
  rfl

theorem bootstrapTrustRoot_trusts {segment : Segment EnvId} {handler : Handler V}
    (routed : request.route = .mutate (.bootstrapTrustRoot segment))
    (built : bootstrapTrustRoot cfg segment = .ok handler) :
    RootConforms cfg request handler := by
  have adds : ∀ envId, segment = .ok envId → AddsTo cfg request envId := by
    rintro envId rfl other entry asked
    simp only [Request.adds, routed, Option.map_eq_some_iff, Prod.mk.injEq] at asked
    obtain ⟨_, _, same, _⟩ := asked
    exact same.symm
  refine trustRootMutation_trusts built adds ?_
  intro ctx revision current k parsed own read
  refine trusts_expectPersisted (adds ctx.envId parsed) (trusts_grantOperatorKey own ?_ read)
  simp only [Request.rootEdit, routed]

theorem seedTrustRoot_trusts {segment : Segment EnvId} {handler : Handler V}
    (routed : request.route = .mutate (.seedTrustRoot segment))
    (built : seedTrustRoot cfg segment = .ok handler) : RootConforms cfg request handler := by
  have nothing : request.adds cfg = none := by simp only [Request.adds, routed]
  refine trustRootMutation_trusts built (fun envId _ => .of_none nothing envId) ?_
  rintro ctx revision current k rfl own read
  have granted : Trusts cfg request (fun _ _ => True) k
      (seedOperatorKey cfg ctx revision current) := by
    unfold seedOperatorKey
    cases current with
    | some _ => exact trivial
    | none =>
        refine (trusts_grantOperatorKey own ?_ read).mono fun _ _ _ => trivial
        simp only [Request.rootEdit, routed]
  refine Program.Obeys.andThen granted (fun _ e _ => RootEnds.failed e) ?_
  intro k' outcome _
  cases outcome with
  | some prepared => exact RootEnds.of_none nothing _
  | none =>
      exact trusts_ask nothing (fun _ e => RootEnds.failed e) fun _ => RootEnds.of_none nothing _

theorem addTrustedKey_trusts {segment : Segment EnvId} {key : TrustedKey} {handler : Handler V}
    (routed : request.route = .mutate (.addTrustedKey segment key))
    (built : addTrustedKey cfg segment key = .ok handler) : RootConforms cfg request handler := by
  have adds : ∀ envId, segment = .ok envId → AddsTo cfg request envId := by
    rintro envId rfl other entry asked
    simp only [Request.adds, routed, Option.map_eq_some_iff, Prod.mk.injEq] at asked
    obtain ⟨_, _, same, _⟩ := asked
    exact same.symm
  refine trustRootMutation_trusts built adds ?_
  intro ctx revision current k parsed own read
  refine trusts_lift (fun e => RootEnds.failed e) ?_
  intro entry checked
  refine trusts_expectPersisted (adds ctx.envId parsed)
    (trusts_persistTrustRootMutation (.add entry) ?_ (fun _ => rfl) 2 current k read)
  simp only [Request.rootEdit, routed, checked]
  rfl

theorem removeTrustedKey_trusts {segment : Segment EnvId} {keyId : String} {handler : Handler V}
    (routed : request.route = .mutate (.removeTrustedKey segment keyId))
    (built : removeTrustedKey cfg segment keyId = .ok handler) :
    RootConforms cfg request handler := by
  have nothing : request.adds cfg = none := by simp only [Request.adds, routed]
  refine trustRootMutation_trusts built (fun envId _ => .of_none nothing envId) ?_
  rintro ctx revision current k rfl own read
  dsimp only
  split
  · refine trusts_ask ⟨current, .remove keyId, read, ?_, rfl, rfl⟩ (fun _ e => RootEnds.failed e)
      fun _ => RootEnds.of_none nothing _
    simp only [Request.rootEdit, routed]
  · exact trusts_ask nothing (fun _ e => RootEnds.failed e) fun _ => RootEnds.of_none nothing _

theorem trusts_buildRevenuePolicy {deployment : BundleDeployment} :
    Trusts cfg request (fun k' outcome => ∀ pending, outcome = .ok pending →
      k'.loaded = k.loaded ∧ ∃ current root, k'.root = some (ctx.envId, current) ∧
        pending.trustRootPin = current.map (·.revision) ∧ trustRootOf current = .ok root ∧
        SignedBy cfg root pending.artifact) k (buildRevenuePolicy cfg ctx deployment) := by
  refine trusts_ask trivial (fun _ _ _ wrong => by cases wrong) ?_
  intro current
  refine trusts_lift (fun _ _ wrong => by cases wrong) ?_
  intro root trusted
  refine trusts_lift (fun _ _ wrong => by cases wrong) ?_
  intro operatorKey _
  refine trusts_lift (fun _ _ wrong => by cases wrong) ?_
  intro built signed
  rintro pending ⟨⟩
  obtain ⟨listed, byKey, verifies⟩ := buildRevenuePolicyVersion_signed (mapError_ok signed)
  exact ⟨rfl, current, root, rfl, rfl, trusted, byKey, listed, verifies⟩

theorem trusts_commitPolicy {clientEtag : Option StateEtag} {loaded : Loaded Environment}
    {env : Environment} {index : Nat} (nothing : request.adds cfg = none)
    (read : k.loaded = some (ctx.envId, loaded))
    (named : env.environmentId = loaded.value.environmentId) :
    Trusts cfg request (RootEnds cfg request) k
      (commitPolicy cfg ctx clientEtag loaded.revision env index) := by
  refine trusts_lift (fun e => RootEnds.failed e) ?_
  intro deployment _
  refine Program.Obeys.andThen trusts_buildRevenuePolicy (fun _ e _ => RootEnds.failed e) ?_
  intro k' pending built
  obtain ⟨kept, current, root, rooted, pinned, trusted, signed⟩ := built pending rfl
  refine trusts_lift (fun e => RootEnds.failed e) ?_
  intro next _
  refine trusts_ask ?_ (fun _ e => RootEnds.failed e) fun _ => RootEnds.of_none nothing _
  exact ⟨nothing, ctx.envId, loaded, current, root, kept.trans read, named, rooted, pinned, trusted, signed⟩

theorem addBundle_trusts {segment : Segment EnvId} {payload : AddBundlePayload}
    {handler : Handler V} (routed : request.route = .mutate (.addBundle segment payload))
    (built : addBundle cfg request.head segment payload = .ok handler) :
    RootConforms cfg request handler := by
  have nothing : request.adds cfg = none := by simp only [Request.adds, routed]
  obtain ⟨id, _, built⟩ := bind_ok built
  cases built
  intro ctx body _ own entered
  obtain ⟨clientEtag, _, entered⟩ := bind_ok entered
  cases entered
  refine trusts_withReplay (.of_none nothing _) own (trusts_ask trivial (fun _ e => RootEnds.failed e) ?_)
  intro loaded
  split
  · exact RootEnds.failed _
  · rename_i index env applied
    refine trusts_commitPolicy nothing rfl ?_
    simp only [Engine.addBundle] at applied
    split at applied
    · cases applied
    · cases applied
      rfl

theorem updateBundle_trusts {segment : Segment EnvId} {deploymentId : Segment DeploymentId}
    {payload : UpdateBundlePayload} {handler : Handler V}
    (routed : request.route = .mutate (.updateBundle segment deploymentId payload))
    (built : updateBundle cfg segment deploymentId payload = .ok handler) :
    RootConforms cfg request handler := by
  have nothing : request.adds cfg = none := by simp only [Request.adds, routed]
  obtain ⟨id, _, built⟩ := bind_ok built
  cases built
  intro ctx body _ own entered
  obtain ⟨clientEtag, _, entered⟩ := bind_ok entered
  obtain ⟨_, _, entered⟩ := bind_ok entered
  obtain ⟨_, _, entered⟩ := bind_ok entered
  cases entered
  refine trusts_withReplay (.of_none nothing _) own (trusts_ask trivial (fun _ e => RootEnds.failed e) ?_)
  intro loaded
  split
  · exact RootEnds.failed _
  · rename_i applied env updated
    have named : env.environmentId = loaded.value.environmentId := by
      simp only [Engine.updateBundle] at updated
      split at updated
      · cases updated
      · cases updated
        rfl
    split
    · exact trusts_commitPolicy nothing rfl named
    · refine trusts_lift (fun e => RootEnds.failed e) ?_
      intro deployment _
      refine trusts_lift (fun e => RootEnds.failed e) ?_
      intro next _
      exact trusts_ask nothing (fun _ e => RootEnds.failed e) fun _ => RootEnds.of_none nothing _

theorem rootPermits_plain (nothing : request.adds cfg = none) (k : RootKnown V) (call : Call V)
    (fine : plain call) : rootPermits cfg request k call := by
  cases call with
  | upsertTrustRoot envId doc precondition journal => exact fine.elim
  | updateEnvWithRevenuePolicy env precondition artifact pin journal => exact fine.elim
  | _ => first | exact trivial | exact nothing

theorem PlainHandler.conforms {handler : Handler V} (plain_ : PlainHandler handler)
    (nothing : request.adds cfg = none) : RootConforms cfg request handler := by
  intro ctx body _ _ entered
  exact (plain_ _ body entered ctx).obeys (rootPermits_plain nothing)
    (fun _ _ => RootEnds.of_none nothing _) _

theorem handler_trusts {mutation : Mutation V} {handler : Handler V}
    (routed : request.route = .mutate mutation)
    (built : mutation.handler cfg request.head = .ok handler) :
    RootConforms cfg request handler := by
  cases rooted : mutation.rooted with
  | false =>
      refine PlainHandler.conforms (handler_plain rooted built) ?_
      cases mutation with
      | addTrustedKey => cases rooted
      | bootstrapTrustRoot => cases rooted
      | _ => simp only [Request.adds, routed]
  | true =>
      cases mutation with
      | addBundle => exact addBundle_trusts routed built
      | updateBundle => exact updateBundle_trusts routed built
      | bootstrapTrustRoot => exact bootstrapTrustRoot_trusts routed built
      | seedTrustRoot => exact seedTrustRoot_trusts routed built
      | addTrustedKey => exact addTrustedKey_trusts routed built
      | removeTrustedKey => exact removeTrustedKey_trusts routed built
      | _ => cases rooted

theorem trustRootMutation_envId {segment : Segment EnvId} {name : String}
    {body : Context → EnvRevision → Option (Loaded TrustRootDocument) → Handling V (Response V)}
    {handler : Handler V} (built : trustRootMutation segment name body = .ok handler) :
    segment = .ok handler.envId := by
  obtain ⟨id, parsed, built⟩ := bind_ok built
  cases built
  exact mapError_ok parsed

theorem handler_addsTo {mutation : Mutation V} {handler : Handler V}
    (routed : request.route = .mutate mutation)
    (built : mutation.handler cfg request.head = .ok handler) :
    AddsTo cfg request handler.envId := by
  intro other entry asked
  cases mutation with
  | addTrustedKey segment key =>
      have named : segment = .ok handler.envId := by
        change addTrustedKey cfg segment key = .ok handler at built
        unfold addTrustedKey at built
        exact trustRootMutation_envId built
      subst named
      simp only [Request.adds, routed, Option.map_eq_some_iff, Prod.mk.injEq] at asked
      obtain ⟨_, _, same, _⟩ := asked
      exact same.symm
  | bootstrapTrustRoot segment =>
      have named : segment = .ok handler.envId := by
        change bootstrapTrustRoot cfg segment = .ok handler at built
        unfold bootstrapTrustRoot at built
        exact trustRootMutation_envId built
      subst named
      simp only [Request.adds, routed, Option.map_eq_some_iff, Prod.mk.injEq] at asked
      obtain ⟨_, _, same, _⟩ := asked
      exact same.symm
  | _ =>
      simp only [Request.adds, routed] at asked
      cases asked

theorem exportBackup_plain {head : Head} {envId : Segment EnvId} {backupId : String} :
    Plain (exportBackup cfg head envId backupId) := by
  refine only_lift fun id _ => ?_
  rcases authorizeMutation_cases cfg head id "backup" "export" with
    ⟨auth, _, passes⟩ | ⟨denial, e, _, quiet | ⟨eventId, event, audited⟩⟩
  · rw [passes]
    exact only_lift fun _ _ => only_ask trivial fun _ => trivial
  · rw [quiet]
    exact trivial
  · rw [audited]
    exact only_ask trivial fun _ => only_ask trivial fun _ => trivial

theorem serve_trusts (cfg : Config V) (request : Request V) :
    (serve cfg request).Obeys (rootPermits cfg request) learnRoot (RootEnds cfg request)
      RootKnown.nothing := by
  unfold serve
  cases routed : request.route with
  | exportBackup envId backupId =>
      have nothing : request.adds cfg = none := by simp only [Request.adds, routed]
      exact exportBackup_plain.obeys (rootPermits_plain nothing)
        (fun _ _ => RootEnds.of_none nothing _) _
  | mutate mutation =>
      dsimp only
      cases built : mutation.handler cfg request.head with
      | error e => exact RootEnds.failed e
      | ok handler =>
          dsimp only
          cases clears : handler.clears cfg request.head with
          | none =>
              obtain ⟨e, quiet | ⟨envId, eventId, event, audited⟩⟩ :=
                Handler.run_refused cfg clears
              · rw [quiet]
                exact RootEnds.failed e
              · rw [audited]
                exact ⟨trivial, fun _ => RootEnds.failed e⟩
          | some entered =>
              obtain ⟨ctx, body⟩ := entered
              obtain ⟨named, own, entered, shape⟩ := Handler.run_admitted cfg clears
              rw [shape]
              refine ⟨trivial, ?_⟩
              intro reply
              cases reply with
              | error e => exact RootEnds.failed _
              | ok found =>
                  cases found with
                  | none => exact handler_trusts routed built ctx body named own entered
                  | some record =>
                      dsimp only
                      split
                      · exact RootEnds.failed _
                      · rename_i same
                        exact RootEnds.replayed (named ▸ handler_addsTo routed built) rfl
                          (not_not.mp same)

end Rooted

end GreenticDeployer.Server
