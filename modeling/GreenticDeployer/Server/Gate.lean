import GreenticDeployer.Lib.Programs
import GreenticDeployer.Server.Envelope

/-!
# The course of a mutating request

Authorize, read the headers, consult the replay ledger, run the body; a body
that fails consults the ledger once more. Handlers are programs over storage
calls, so every point at which another request may intervene is a call.
-/

set_option maxHeartbeats 200000

namespace GreenticDeployer.Server

open Spec Engine Store Trust Lib

/-- What the server is started with: its policy and the libraries it calls. -/
structure Config (V : Type) where
  json : StoreJson V
  serde : SerdeJson
  ext : Externals
  rbac : RbacEngine
  signing : Signing

/-- What a request brings beside its payload: headers, fingerprint, and what
the handler draws from outside (the clock, minted identifiers, the key file). -/
structure Head where
  headers : HeaderMap
  fingerprint : String
  now : DateTime
  /-- The event id minted for each attempt to commit. -/
  eventId : Nat → String
  backupId : String
  deploymentId : DeploymentId
  endpointId : MessagingEndpointId
  /-- `none` where the key file cannot be read or written. -/
  operatorKey : Option OperatorKey

structure Context where
  head : Head
  envId : EnvId
  noun : String
  verb : String
  auth : AuthContext
  idemKey : IdempotencyKey

variable {V : Type}

abbrev Call (V : Type) := StorageCall V (ResponseBody V)

abbrev Handling (V : Type) :=
  Program.Fallible (Call V) StorageCall.Reply RemoteStoreError

def ask (call : Call V) (onError : StorageError → RemoteStoreError) : Handling V call.Result :=
  Program.ask call fun reply => reply.mapError onError

def attempt (call : Call V) : Handling V call.Reply := Program.ask call .ok

structure PreparedMutation (V : Type) where
  status : Nat
  body : ResponseBody V
  journal : Journal V

def PreparedMutation.intoResponse (prepared : PreparedMutation V) : Response V :=
  ⟨prepared.status, prepared.body⟩

variable (cfg : Config V)

def auditEventFor (ctx : Context) (attempt : Nat) (previousGeneration newGeneration : Option Nat)
    (result : AuditResult) : AuditEvent where
  schema := ⟨SchemaVersion.auditEventV1⟩
  eventId := ctx.head.eventId attempt
  ts := ctx.head.now
  actor := ctx.auth.actor
  envId := ctx.envId.asStr
  noun := ctx.noun
  verb := ctx.verb
  previousGeneration := previousGeneration
  newGeneration := newGeneration
  idempotencyKey := some ctx.idemKey.asStr
  authorization := ctx.auth.decision
  result := result

/-- A response and the journal that commits it. -/
def prepared (ctx : Context) (status : Nat) (body : ResponseBody V) (audit : AuditEvent) :
    PreparedMutation V where
  status := status
  body := body
  journal := {
    envId := ctx.envId
    idempotencyKey := ctx.idemKey.asStr
    operation := ctx.noun ++ "." ++ ctx.verb
    requestFingerprint := ctx.head.fingerprint
    responseStatus := status
    responseBody := body
    auditEvent := cfg.json.auditEvent audit
    auditEventId := audit.eventId }

def prepareMutationAudited (ctx : Context) (result : MutationResult)
    (previousGeneration : Option Nat) (revision : EnvRevision) (auditResult : AuditResult)
    (attempt : Nat) : PreparedMutation V :=
  let audit := auditEventFor ctx attempt previousGeneration (some revision.generation) auditResult
  prepared cfg ctx 200 (.envelope ⟨result, revision.etag, revision.generation, .applied, audit⟩)
    audit

def prepareMutation (ctx : Context) (result : MutationResult) (previousGeneration : Option Nat)
    (revision : EnvRevision) : PreparedMutation V :=
  prepareMutationAudited cfg ctx result previousGeneration revision .ok 0

def prepareCommittedError (ctx : Context) (revisionId : RevisionId)
    (failedChecks : List HealthCheckId) (message : String) (previousGeneration : Option Nat)
    (newGeneration : Nat) : PreparedMutation V :=
  let error := RemoteStoreError.healthGateFailed revisionId failedChecks message
  let audit := auditEventFor ctx 0 previousGeneration (some newGeneration)
    (.error "health-gate-failed"
      ("health gate failed for revision `" ++ revisionId.toString ++ "`: " ++ message))
  prepared cfg ctx error.httpStatus (.error error) audit

def envelopeEncodeError : RemoteStoreError := .internal "mutation envelope failed to serialize"

def contentEtag (env : Environment) : Except RemoteStoreError StateEtag :=
  match cfg.json.environment.toValue env with
  | .error _ => .error envelopeEncodeError
  | .ok data => .ok ⟨cfg.json.sha256Of data⟩

def nextRevision (env : Environment) (loaded : EnvRevision) : Except RemoteStoreError EnvRevision :=
  (contentEtag cfg env).map fun etag => ⟨loaded.generation + 1, etag⟩

def createdRevision (env : Environment) : Except RemoteStoreError EnvRevision :=
  (contentEtag cfg env).map fun etag => ⟨1, etag⟩

def resolvePrecondition (clientEtag : Option StateEtag) (loaded : EnvRevision) : Precondition :=
  ⟨some (clientEtag.getD loaded.etag), some loaded.generation⟩

def replayGate (envId : EnvId) (idemKey fingerprint : String) : Handling V (Option (Response V)) :=
  Program.ask (.lookupIdempotency envId idemKey) fun reply =>
    match reply with
    | .error e => .error (loadStorageError e)
    | .ok none => .ok none
    | .ok (some record) =>
      if record.requestFingerprint ≠ fingerprint then .error (reusedKey envId idemKey record)
      else .ok (some (replay record))

/-- Replay a duplicate that meanwhile committed; otherwise the error stands. -/
def errorOrReplay (ctx : Context) (e : RemoteStoreError) : Handling V (Response V) :=
  ExceptT.mk ((replayGate ctx.envId ctx.idemKey.asStr ctx.head.fingerprint).run >>= fun outcome =>
    match outcome with
    | .ok (some replay) => .done (.ok replay)
    | _ => .done (.error e))

def withReplay (ctx : Context) (body : Handling V (Response V)) : Handling V (Response V) :=
  Program.rescue body (errorOrReplay ctx)

/-- The audit record of a denied attempt. -/
def denialEvent (head : Head) (envId : EnvId) (noun verb : String) (denial : RbacDenial) :
    AuditEvent where
  schema := ⟨SchemaVersion.auditEventV1⟩
  eventId := head.eventId 0
  ts := head.now
  actor := denial.actor
  envId := envId.asStr
  noun := noun
  verb := verb
  previousGeneration := none
  newGeneration := none
  idempotencyKey := carriedKey head.headers
  authorization := .deny denial.policy denial.reason
  result := .error "unauthorized"
    ("unauthorized: " ++ denial.reason ++ " (policy `" ++ denial.policy ++ "`)")

/-- A denial by role or scope is audited, its audit failing or not; an anonymous
one leaves no trace in storage. -/
def authorizeMutation (head : Head) (envId : EnvId) (noun verb : String) :
    Handling V AuthContext :=
  match cfg.rbac.authorizeMutation (bearerToken head.headers) envId noun verb with
  | .ok auth => Program.lift (.ok auth)
  | .error denial =>
    let refusal := RemoteStoreError.unauthorized denial.policy denial.reason
    if denial.authenticated then
      Program.ask (.recordAudit envId (head.eventId 0)
        (cfg.json.auditEvent (denialEvent head envId noun verb denial))) fun _ => .error refusal
    else Program.lift (.error refusal)

/-- A mutating route with its path parsed: what it acts on, under which name,
and how it goes on once the headers are read. -/
structure Handler (V : Type) where
  envId : EnvId
  noun : String
  verb : String
  enter : HeaderMap → Except RemoteStoreError (Context → Handling V (Response V))

def Handler.run (head : Head) (handler : Handler V) : Handling V (Response V) := do
  let auth ← authorizeMutation cfg head handler.envId handler.noun handler.verb
  let idemKey ← Program.lift (requireIdempotencyKey head.headers)
  let body ← Program.lift (handler.enter head.headers)
  match ← replayGate handler.envId idemKey.asStr head.fingerprint with
  | some replay => return replay
  | none => body ⟨head, handler.envId, handler.noun, handler.verb, auth, idemKey⟩

end GreenticDeployer.Server
