import GreenticDeployer.Store.Tables

/-!
# Static bearer-token authorization

Without a token file every request is allowed. With one, a token's digest names
a principal, whose scope and role must both permit the mutation.
-/

set_option maxHeartbeats 200000

namespace GreenticDeployer.Server

open Spec Store

def policyOpenDev : String := "open-dev"
def policyStaticTokens : String := "static-tokens"

inductive Role where
  | admin
  | operator
  | readOnly
  deriving DecidableEq, Repr

namespace Role

def asStr : Role → String
  | .admin => "admin"
  | .operator => "operator"
  | .readOnly => "read-only"

def allowsMutation (noun : String) : Role → Bool
  | .admin => true
  | .operator => noun ≠ "trust-root"
  | .readOnly => false

end Role

inductive EnvScope where
  | all
  | restricted (envIds : List EnvId)
  deriving DecidableEq, Repr

def EnvScope.permits (envId : EnvId) : EnvScope → Bool
  | .all => true
  | .restricted envIds => envId ∈ envIds

structure Principal where
  actor : String
  role : Role
  scope : EnvScope
  deriving DecidableEq, Repr

structure AuthContext where
  actor : Actor
  decision : AuditDecision
  deriving DecidableEq, Repr

structure RbacDenial where
  actor : Actor
  policy : String
  reason : String
  authenticated : Bool
  deriving DecidableEq, Repr

/-- The posture chosen at startup. Tokens are looked up by their digest. -/
inductive RbacEngine where
  | openDev
  | staticTokens (sha256Hex : String → String) (principals : Table String Principal)

namespace RbacEngine

def anonymousDenial : RbacDenial where
  actor := ⟨"anonymous", none, none⟩
  policy := policyStaticTokens
  reason := "missing or unrecognized bearer token"
  authenticated := false

def authenticate (rbac : RbacEngine) (bearerToken : Option String) :
    Except RbacDenial (Actor × Role × EnvScope) :=
  match rbac with
  | .openDev => .ok (⟨"store-server", none, none⟩, .admin, .all)
  | .staticTokens sha256Hex principals =>
    match bearerToken.bind fun token => principals.lookup (sha256Hex token) with
    | none => .error anonymousDenial
    | some principal =>
      .ok (⟨"bearer-token", some principal.actor, none⟩, principal.role, principal.scope)

def authorizeMutation (rbac : RbacEngine) (bearerToken : Option String) (envId : EnvId)
    (noun verb : String) : Except RbacDenial AuthContext :=
  match rbac.authenticate bearerToken with
  | .error denial => .error denial
  | .ok (actor, role, scope) =>
    match rbac with
    | .openDev =>
      .ok ⟨actor, .allow policyOpenDev "RBAC tokens not configured; open-dev allows all"⟩
    | .staticTokens .. =>
      let operation := noun ++ "." ++ verb
      if ¬ scope.permits envId then
        .error ⟨actor, policyStaticTokens, "token is not scoped for environment `" ++ envId.asStr ++
          "` on `" ++ operation ++ "`", true⟩
      else if role.allowsMutation noun then
        .ok ⟨actor, .allow policyStaticTokens
          ("role `" ++ role.asStr ++ "` permits `" ++ operation ++ "`")⟩
      else
        .error ⟨actor, policyStaticTokens,
          "role `" ++ role.asStr ++ "` does not permit `" ++ operation ++ "`", true⟩

end RbacEngine

end GreenticDeployer.Server
