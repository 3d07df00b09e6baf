import GreenticDeployer.Lib.Results
import GreenticDeployer.Trust.TrustRoot

/-!
# Building a revenue-policy version

The next version of a deployment's signed revenue policy: numbered from the
reference the deployment carries, refused unless the operator key is trusted.
-/

set_option maxHeartbeats 200000

namespace GreenticDeployer.Trust

open Spec Lib

inductive RevenuePolicyError where
  | spec (error : SpecError)
  | unsafeSegment (segment : String)
  | versionOverflow
  | sign (error : SigningError)
  | operatorKeyNotTrusted (keyId : String)
  deriving DecidableEq, Repr

structure OperatorKey where
  keyId : String
  privatePem : String
  publicPem : String
  deriving DecidableEq, Repr

structure RevenuePolicyPredicate where
  schema : String
  deploymentId : DeploymentId
  envId : EnvId
  bundleId : BundleId
  customerId : CustomerId
  version : Nat
  previousVersionRef : Option String
  signedAt : DateTime
  deriving DecidableEq

/-- The in-toto statement over one policy document. -/
structure Statement where
  subjectName : String
  subjectSha256 : String
  predicateType : String
  predicate : RevenuePolicyPredicate
  deriving DecidableEq

/-- The libraries the builder calls: the digest of a document's printed form,
and DSSE signing and verification of an envelope's text. -/
structure Signing where
  keyIdForPublicKeyPem : String → Except SigningError String
  sha256Hex : RevenuePolicyDocument → String
  signStatement : Statement → String → String → Except SigningError String
  verifyArtifactDsse : String → String → TrustRoot → Except SigningError Unit

/-- Signatures that name their key and the digest they cover. -/
def Signing.naming (sha256Hex : RevenuePolicyDocument → String) : Signing where
  keyIdForPublicKeyPem := fun pem => .ok pem
  sha256Hex := sha256Hex
  signStatement := fun statement _ keyId => .ok (keyId ++ ":" ++ statement.subjectSha256)
  verifyArtifactDsse := fun envelope digest root =>
    if root.keys.any fun key => envelope = key.keyId ++ ":" ++ digest then .ok ()
    else .error ⟨"untrusted"⟩

structure BuiltRevenuePolicyVersion where
  docRef : PathBuf
  policyRef : PathBuf
  doc : RevenuePolicyDocument
  envelope : String
  version : Nat
  docSha256 : String
  keyId : String
  deriving DecidableEq

def billingDir : String := "billing-policies"
def revenuePolicyPredicateTypeV1 : String := "greentic.revenue-policy-predicate.v1"

def documentName (version : Nat) : String := "v" ++ toString version ++ ".json"
def sidecarName (version : Nat) : String := "v" ++ toString version ++ ".json.sig"

def safeSegment (segment : String) : Except RevenuePolicyError String :=
  if segment = "" ∨ segment = "." ∨ segment = ".." ∨ '/' ∈ segment.toList ∨
      '\\' ∈ segment.toList ∨ '\x00' ∈ segment.toList then
    .error (.unsafeSegment segment)
  else .ok segment

/-- `Path::file_name`: the last component, unless it is `..`. -/
def fileName (path : PathBuf) : Option (List Char) :=
  let components := (path.toList.splitOn '/').filter fun part => part ≠ [] ∧ part ≠ ['.']
  match components.getLast? with
  | none => none
  | some last => if last = ['.', '.'] then none else some last

def stripSuffix (suffix text : List Char) : Option (List Char) :=
  if suffix <:+ text then some (text.take (text.length - suffix.length)) else none

/-- `str::parse::<u64>`: digits after an optional plus sign, within 64 bits. -/
def parseU64 (text : List Char) : Option Nat :=
  let digits := match text with
    | '+' :: rest => rest
    | _ => text
  if digits = [] ∨ digits.any (fun c => !c.isDigit) then none
  else
    let value := digits.foldl (fun n c => n * 10 + (c.toNat - '0'.toNat)) 0
    if value < 2 ^ 64 then some value else none

def parseSidecarVersion (refPath : PathBuf) : Option Nat :=
  match fileName refPath with
  | some ('v' :: rest) =>
    match (stripSuffix ".json.sig".toList rest).bind parseU64 with
    | some n => if 1 ≤ n then some n else none
    | none => none
  | _ => none

def nextVersionFromRef (currentRef : PathBuf) : Except RevenuePolicyError Nat :=
  match parseSidecarVersion currentRef with
  | some n => if n + 1 < 2 ^ 64 then .ok (n + 1) else .error .versionOverflow
  | none => .ok 1

def policyDir (bundleId : BundleId) (customerId : CustomerId) : String :=
  billingDir ++ "/" ++ bundleId.asStr ++ "/" ++ customerId.asStr

def sidecarRef (bundleId : BundleId) (customerId : CustomerId) (version : Nat) : PathBuf :=
  policyDir bundleId customerId ++ "/" ++ sidecarName version

def policyDocument (deployment : BundleDeployment) (revenueShare : List RevenueShareEntry)
    (createdAt : DateTime) (version : Nat) : RevenuePolicyDocument where
  schema := ⟨SchemaVersion.revenuePolicyV1⟩
  version := version
  deploymentId := deployment.deploymentId
  envId := deployment.envId
  bundleId := deployment.bundleId
  customerId := deployment.customerId
  revenueShare := revenueShare
  createdAt := createdAt
  previousVersionRef :=
    if version > 1 then some (sidecarRef deployment.bundleId deployment.customerId (version - 1))
    else none

def policyStatement (doc : RevenuePolicyDocument) (docSha256 : String) : Statement where
  subjectName := documentName doc.version
  subjectSha256 := docSha256
  predicateType := revenuePolicyPredicateTypeV1
  predicate := {
    schema := revenuePolicyPredicateTypeV1
    deploymentId := doc.deploymentId
    envId := doc.envId
    bundleId := doc.bundleId
    customerId := doc.customerId
    version := doc.version
    previousVersionRef := doc.previousVersionRef
    signedAt := doc.createdAt }

def liftSign {α : Type} : Except SigningError α → Except RevenuePolicyError α
  | .error e => .error (.sign e)
  | .ok a => .ok a

def buildRevenuePolicyVersion (signing : Signing) (deployment : BundleDeployment)
    (revenueShare : List RevenueShareEntry) (createdAt : DateTime) (operatorKey : OperatorKey)
    (trustRoot : TrustRoot) : Except RevenuePolicyError BuiltRevenuePolicyVersion := do
  ensure (trustRoot.keys.any fun k => eqIgnoreAsciiCase k.keyId operatorKey.keyId)
    (.operatorKeyNotTrusted operatorKey.keyId)
  let _ ← safeSegment deployment.bundleId.asStr
  let _ ← safeSegment deployment.customerId.asStr
  let version ← nextVersionFromRef deployment.revenuePolicyRef
  let doc := policyDocument deployment revenueShare createdAt version
  match doc.validate with
  | .error e => throw (.spec e)
  | .ok () =>
    let docSha256 := signing.sha256Hex doc
    let envelope ← liftSign (signing.signStatement (policyStatement doc docSha256)
      operatorKey.privatePem operatorKey.keyId)
    -- The fresh envelope must verify against the same trust root.
    liftSign (signing.verifyArtifactDsse envelope docSha256 trustRoot)
    return {
      docRef := policyDir deployment.bundleId deployment.customerId ++ "/" ++
        documentName version
      policyRef := sidecarRef deployment.bundleId deployment.customerId version
      doc := doc
      envelope := envelope
      version := version
      docSha256 := docSha256
      keyId := operatorKey.keyId }

theorem buildRevenuePolicyVersion_ok {signing : Signing} {deployment : BundleDeployment}
    {revenueShare : List RevenueShareEntry} {createdAt : DateTime} {operatorKey : OperatorKey}
    {trustRoot : TrustRoot} {built : BuiltRevenuePolicyVersion}
    (returned : buildRevenuePolicyVersion signing deployment revenueShare createdAt operatorKey
      trustRoot = .ok built) :
    nextVersionFromRef deployment.revenuePolicyRef = .ok built.version ∧
      built.policyRef = sidecarRef deployment.bundleId deployment.customerId built.version ∧
      built.doc.revenueShare = revenueShare := by
  unfold buildRevenuePolicyVersion at returned
  obtain ⟨_, _, returned⟩ := bind_ok returned
  obtain ⟨_, _, returned⟩ := bind_ok returned
  obtain ⟨_, _, returned⟩ := bind_ok returned
  obtain ⟨version, numbered, returned⟩ := bind_ok returned
  dsimp only at returned
  split at returned
  · cases returned
  · obtain ⟨_, _, returned⟩ := bind_ok returned
    obtain ⟨_, _, returned⟩ := bind_ok returned
    cases returned
    exact ⟨numbered, rfl, rfl⟩

theorem liftSign_ok {α : Type} {outcome : Except SigningError α} {a : α}
    (returned : liftSign outcome = .ok a) : outcome = .ok a := by
  unfold liftSign at returned
  split at returned
  · cases returned
  · cases returned
    rfl

/-- Who signed a built version: a key the trust root lists, with an envelope
that verifies against that root. -/
theorem buildRevenuePolicyVersion_signed {signing : Signing} {deployment : BundleDeployment}
    {revenueShare : List RevenueShareEntry} {createdAt : DateTime} {operatorKey : OperatorKey}
    {trustRoot : TrustRoot} {built : BuiltRevenuePolicyVersion}
    (returned : buildRevenuePolicyVersion signing deployment revenueShare createdAt operatorKey
      trustRoot = .ok built) :
    (∃ key ∈ trustRoot.keys, eqIgnoreAsciiCase key.keyId built.keyId = true) ∧
      (∃ statement privatePem,
        signing.signStatement statement privatePem built.keyId = .ok built.envelope) ∧
      signing.verifyArtifactDsse built.envelope built.docSha256 trustRoot = .ok () := by
  unfold buildRevenuePolicyVersion at returned
  obtain ⟨_, trusted, returned⟩ := bind_ok returned
  obtain ⟨_, _, returned⟩ := bind_ok returned
  obtain ⟨_, _, returned⟩ := bind_ok returned
  obtain ⟨version, _, returned⟩ := bind_ok returned
  dsimp only at returned
  split at returned
  · cases returned
  · obtain ⟨envelope, signed, returned⟩ := bind_ok returned
    obtain ⟨_, verified, returned⟩ := bind_ok returned
    cases returned
    exact ⟨List.any_eq_true.mp (ensure_ok trusted), ⟨_, _, liftSign_ok signed⟩,
      liftSign_ok verified⟩

end GreenticDeployer.Trust
