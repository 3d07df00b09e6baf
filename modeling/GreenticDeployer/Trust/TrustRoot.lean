import GreenticDeployer.Spec.Remote

/-!
# Trust-root documents

Validation of a trusted key and the two transforms of the key list. Key ids
compare without regard to ASCII case. The signature library is an argument.
-/

set_option maxHeartbeats 200000

namespace GreenticDeployer.Trust

open Spec

structure SigningError where
  detail : String
  deriving DecidableEq, Repr

inductive TrustRootDocError where
  | badSchema (found : String)
  | key (error : SigningError)
  | keyIdMismatch (supplied derived : String)
  | emptyKeyId (keyId : String)
  deriving DecidableEq, Repr

/-- The verifier's view of a document: its keys. -/
structure TrustRoot where
  keys : List TrustedKey
  deriving DecidableEq

def eqIgnoreAsciiCase (a b : String) : Bool := a.toList.map Char.toLower = b.toList.map Char.toLower

def v1 (keys : List TrustedKey) : TrustRootDocument := ⟨SchemaVersion.trustRootV1, keys⟩

def intoTrustRoot (doc : TrustRootDocument) : Except TrustRootDocError TrustRoot :=
  if doc.schema ≠ SchemaVersion.trustRootV1 then .error (.badSchema doc.schema)
  else .ok ⟨doc.keys⟩

/-- The supplied id must be the one the public key derives, in any case; the
stored entry carries the derived one. -/
def validateTrustedKey (keyIdForPublicKeyPem : String → Except SigningError String)
    (key : TrustedKey) : Except TrustRootDocError TrustedKey :=
  if trim key.keyId = [] then .error (.emptyKeyId key.keyId)
  else
    match keyIdForPublicKeyPem key.publicKeyPem with
    | .error e => .error (.key e)
    | .ok derived =>
      if eqIgnoreAsciiCase key.keyId derived then .ok ⟨derived, key.publicKeyPem⟩
      else .error (.keyIdMismatch key.keyId derived)

def applyAdd (keys : List TrustedKey) (key : TrustedKey) : List TrustedKey :=
  keys.filter (fun k => !eqIgnoreAsciiCase k.keyId key.keyId) ++ [key]

def applyRemove (keys : List TrustedKey) (keyId : String) : Bool × List TrustedKey :=
  let kept := keys.filter fun k => !eqIgnoreAsciiCase k.keyId keyId
  (kept.length ≠ keys.length, kept)

end GreenticDeployer.Trust
