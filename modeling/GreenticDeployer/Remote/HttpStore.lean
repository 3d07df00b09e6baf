import GreenticDeployer.Server.Alone
import GreenticDeployer.Server.Replies

/-!
# The remote client

One store handle of a remote operator: it remembers the last etag it was told for an
environment, sends it with its next mutation, and replaces it by whatever etag the
response carries. Its calls run among the requests of everyone else.
-/

set_option maxHeartbeats 200000

namespace GreenticDeployer.Remote

open Spec Engine Store Trust Lib Server

variable {V : Type}

structure HttpEnvironmentStore where
  authHeaderValue : Option String
  cachedEtag : Table EnvId StateEtag

/-- A strong validator is sent in quotes. -/
def headerValue (etag : StateEtag) : String := "\"" ++ etag.value ++ "\""

namespace HttpEnvironmentStore

variable (store : HttpEnvironmentStore)

def ifMatchHeader (envId : EnvId) : Option String :=
  (store.cachedEtag.lookup envId).map headerValue

def rememberEtag (envId : EnvId) : Option StateEtag → HttpEnvironmentStore
  | some etag => { store with cachedEtag := store.cachedEtag.insert envId etag }
  | none => { store with cachedEtag := store.cachedEtag.erase envId }

theorem rememberEtag_some (envId : EnvId) (etag : StateEtag) :
    (store.rememberEtag envId (some etag)).cachedEtag.lookup envId = some etag :=
  AList.lookup_insert _

def headers (envId : EnvId) (idempotencyKey : String) : HeaderMap where
  authorization := store.authHeaderValue.map .ascii
  idempotencyKey := some (.ascii idempotencyKey)
  ifMatch := (store.ifMatchHeader envId).map .ascii

/-- The request of a mutation as the server sees it, with what it draws itself. -/
def request (envId : EnvId) (idempotencyKey : String) (mutation : Mutation V) (drawn : Head) :
    Request V where
  head := { drawn with headers := store.headers envId idempotencyKey }
  route := .mutate mutation

end HttpEnvironmentStore

/-- How a success envelope may contradict itself or the request. -/
inductive AuditViolation where
  | denied (policy reason : String)
  | notOk (result : AuditResult)
  | otherEnvironment (envId : String)
  | otherKey (idempotencyKey : Option String)
  deriving DecidableEq

inductive StoreError where
  | remote (error : RemoteStoreError)
  | unreadable
  | committedAfterSave (violation : Option AuditViolation)
  deriving DecidableEq

def validateSuccessAudit (audit : AuditEvent) (expectedEnv : EnvId) (sentIdempotencyKey : String) :
    Except AuditViolation Unit :=
  match audit.authorization, audit.result with
  | .deny policy reason, _ => .error (.denied policy reason)
  | .allow .., .error kind message => .error (.notOk (.error kind message))
  | .allow .., .ok => do
    ensure (audit.envId = expectedEnv.asStr) (.otherEnvironment audit.envId)
    ensure (audit.idempotencyKey = some sentIdempotencyKey) (.otherKey audit.idempotencyKey)

def parseResponse : Except RemoteStoreError (Response V) → Except StoreError MutationEnvelope
  | .error e => .error (.remote e)
  | .ok response =>
    if 200 ≤ response.status ∧ response.status < 300 then
      match response.body with
      | .envelope envelope => .ok envelope
      | _ => .error (.committedAfterSave none)
    else
      match response.body with
      | .error e => .error (.remote e)
      | _ => .error .unreadable

def validated (envelope : MutationEnvelope) (expectedEnv : EnvId) (sentIdempotencyKey : String) :
    Except StoreError MutationResult :=
  match validateSuccessAudit envelope.audit expectedEnv sentIdempotencyKey with
  | .error violation => .error (.committedAfterSave (some violation))
  | .ok () => .ok envelope.result

/-- The end of `send_mutation`: any etag of a success is chained, an error drops the one
that was cached. -/
def HttpEnvironmentStore.settle (store : HttpEnvironmentStore) (expectedEnv : EnvId)
    (idempotencyKey : String) (reply : Except RemoteStoreError (Response V)) :
    Except StoreError MutationResult × HttpEnvironmentStore :=
  match parseResponse reply with
  | .ok envelope => (validated envelope expectedEnv idempotencyKey,
      store.rememberEtag expectedEnv (some envelope.etag))
  | .error e => (.error e, store.rememberEtag expectedEnv none)

/-- A call that succeeds leaves the etag of its envelope cached. -/
theorem settle_ok {store : HttpEnvironmentStore} {envId : EnvId} {key : String}
    {reply : Except RemoteStoreError (Response V)}
    (returned : (store.settle envId key reply).1.isOk = true) :
    ∃ response envelope, reply = .ok response ∧ response.body = .envelope envelope ∧
      (store.settle envId key reply).2 = store.rememberEtag envId (some envelope.etag) := by
  cases reply with
  | error e => cases returned
  | ok response =>
      obtain ⟨status, body⟩ := response
      unfold HttpEnvironmentStore.settle parseResponse at returned ⊢
      by_cases success : 200 ≤ status ∧ status < 300
      · simp only [if_pos success] at returned ⊢
        cases body with
        | envelope envelope => exact ⟨_, envelope, rfl, rfl, rfl⟩
        | error e => cases returned
        | artifact artifact => cases returned
      · simp only [if_neg success] at returned
        cases body <;> cases returned

theorem headerValue_toList (etag : StateEtag) :
    (headerValue etag).toList = '"' :: (etag.value.toList ++ ['"']) := by
  simp [headerValue]

theorem trim_headerValue (etag : StateEtag) : trim (headerValue etag) = (headerValue etag).toList := by
  have quote : isWhitespace '"' = false := by decide
  simp [trim, headerValue_toList, quote]

theorem unquote_headerValue (etag : StateEtag) :
    unquote (headerValue etag).toList = etag.value.toList := by
  have opened : stripPrefix ['"'] (headerValue etag).toList = some (etag.value.toList ++ ['"']) := by
    simp [stripPrefix, headerValue_toList]
  have closed : stripSuffix ['"'] (etag.value.toList ++ ['"']) = some etag.value.toList := by
    simp [stripSuffix]
  simp [unquote, opened, closed]

/-- The server reads back the etag the client sends. -/
theorem parseIfMatch_headers (store : HttpEnvironmentStore) (envId : EnvId) (key : String) :
    parseIfMatch (store.headers envId key) = .ok (store.cachedEtag.lookup envId) := by
  cases cached : store.cachedEtag.lookup envId with
  | none =>
      simp [parseIfMatch, HttpEnvironmentStore.headers, HttpEnvironmentStore.ifMatchHeader, cached]
  | some etag =>
      have strong : ¬ ("W/".toList <+: (headerValue etag).toList ∨
          "w/".toList <+: (headerValue etag).toList) := by
        simp [headerValue_toList]
      have named : (headerValue etag).toList ≠ ['*'] := by
        simp [headerValue_toList]
      simp only [parseIfMatch, HttpEnvironmentStore.headers, HttpEnvironmentStore.ifMatchHeader,
        cached, Option.map_some, trim_headerValue, if_neg strong, if_neg named,
        unquote_headerValue, String.ofList_toList]

end GreenticDeployer.Remote
