import GreenticDeployer.Lib.Results
import GreenticDeployer.Spec.Documents
import Mathlib.Data.List.Sort
import Mathlib.Data.String.Basic

/-!
# System-of-record units

What a manifest declares of a unit, what the applied ledger records of it, and
the store paths of its inputs and of its route document.
-/

set_option maxHeartbeats 200000

namespace GreenticDeployer.Sor

open Spec Lib

structure SorUnit where
  unitId : String
  sor : String
  packRef : String
  image : String
  tenantId : String
  answersRef : String
  postgresUrlRef : String
  postgresCaRef : Option String
  sharedSecretRef : String
  deriving DecidableEq

def SorUnit.inputRefs (unit : SorUnit) : List String :=
  [unit.answersRef, unit.postgresUrlRef] ++ unit.postgresCaRef.toList ++ [unit.sharedSecretRef]

inductive SorLane
  | k8s
  | cloudRun
  deriving DecidableEq

structure CloudRunSorPlacement where
  service : String
  secret : String
  project : String
  region : String
  deriving DecidableEq

structure AppliedSorUnit where
  unitId : String
  sor : String
  namespaceName : String
  cloudRun : Option CloudRunSorPlacement
  inputRefs : List String
  deriving DecidableEq

inductive SorError
  | invalidArgument (field : String)
  | corruptEntry (unitId : String)
  | foreignLane (unitId : String)
  | vaultBackend
  | secretsPathOverride
  | missingInput (unitId : String) (rel : String)
  | answersTenant (unitId : String)
  | provider
  deriving DecidableEq

namespace AppliedSorUnit

/-- An entry naming both placements or neither is corrupt. -/
def lane (entry : AppliedSorUnit) : Except SorError SorLane :=
  match decide (entry.namespaceName = ""), entry.cloudRun with
  | false, none => .ok .k8s
  | true, some _ => .ok .cloudRun
  | false, some _ | true, none => .error (.corruptEntry entry.unitId)

def samePlace (entry other : AppliedSorUnit) : Bool :=
  entry.unitId = other.unitId && entry.namespaceName = other.namespaceName &&
    entry.cloudRun = other.cloudRun

def sameUnit (entry other : AppliedSorUnit) : Bool :=
  entry.sor = other.sor && entry.samePlace other

end AppliedSorUnit

/-- `SorLanePlacement::applied` on the Kubernetes lane. -/
def applied (namespaceName : String) (unit : SorUnit) : AppliedSorUnit where
  unitId := unit.unitId
  sor := unit.sor
  namespaceName
  cloudRun := none
  inputRefs := unit.inputRefs

def segments (rel : String) : List String := (rel.toList.splitOn '/').map String.ofList

def isVerbatimCategory (rel : String) : Bool :=
  (segments rel)[2]?.any fun category => category ∈ ["mcp", "a2a", "sorla"]

def isDefaultSegmentCategory (rel : String) : Bool :=
  (segments rel)[2]?.any fun category => category ∈ ["llm", "knowledge"]

/-- The env segment of a dev-store key and the path below it. -/
structure SecretUri where
  envSegment : String
  relPath : String
  deriving DecidableEq

def devStoreKey (envId : EnvId) (rel : String) : SecretUri :=
  if isVerbatimCategory rel || isDefaultSegmentCategory rel then ⟨"default", rel⟩
  else ⟨envId.asStr, rel⟩

/-- The functions of the secrets library and of the JSON library the code calls:
`normalize_team`, `canonical_secret_name`, the tenant that a unit's answers set,
and a route document's text from its url, token and tenant. -/
structure Formats where
  normalizeTeam : String → Option String
  canonicalSecretName : String → String
  answersTenant : String → Option String
  routeText : String → String → String → String

def boundCredentialStorePaths : List String :=
  ["default/_/k8s-deployer/deployer_token", "default/_/aws-deployer/deployer_session"]

/-- `versionless_rel_path`, on the segments: the last one may carry a version. -/
def versionlessSegments (rel : String) : List String :=
  let parts := segments rel
  if parts.length < 2 then parts
  else parts.dropLast ++ parts.getLast?.toList.map fun last =>
    String.ofList (last.toList.takeWhile (· ≠ '@'))

def isReservedRelPath (rel : String) : Bool :=
  boundCredentialStorePaths.any fun path => segments path = versionlessSegments rel

def validateDevStoreSecretPath (formats : Formats) (rel : String) : Except SorError Unit :=
  match segments rel with
  | [tenant, team, pack, name] =>
    if tenant = "" ∨ team = "" ∨ pack = "" ∨ name = "" then .error (.invalidArgument rel)
    else if (formats.normalizeTeam team).getD "_" ≠ team then .error (.invalidArgument rel)
    else if !isVerbatimCategory rel && formats.canonicalSecretName name ≠ name then
      .error (.invalidArgument rel)
    else if isReservedRelPath rel then .error (.invalidArgument rel)
    else .ok ()
  | _ => .error (.invalidArgument rel)

def routeRelPath (sor : String) : String := "default/_/sorla/" ++ sor

/-- `<tenant>/_/sor-<unit_id>/<name>`, the canonical place of a unit's inputs. -/
def isOwnedBy (unitId rel : String) : Bool :=
  match segments rel with
  | [tenant, "_", unitSegment, name] =>
    tenant ≠ "" && name ≠ "" && unitSegment.toList = "sor-".toList ++ unitId.toList
  | _ => false

def isDns1123Label (text : String) : Bool :=
  text.utf8ByteSize ≠ 0 && text.utf8ByteSize ≤ 63 &&
    text.toList.head? ≠ some '-' && text.toList.getLast? ≠ some '-' &&
    text.toList.all fun c => c.isLower || c.isDigit || c = '-'

def maxUnitIdLen : Nat := 55

def reservedCategories : List String := ["mcp", "a2a", "sorla", "llm"]

def validateSorKey (sor : String) : Bool :=
  sor.toList.head?.any (fun c => c.isLower || c.isDigit) &&
    sor.toList.all fun c => c.isLower || c.isDigit || c ∈ ['-', '.', '_']

/-- `rsplit_once`: around the last place the separator stands. -/
def rsplitOnce (separator : List Char) : List Char → Option (List Char × List Char)
  | [] => none
  | c :: rest =>
    match rsplitOnce separator rest with
    | some (head, tail) => some (c :: head, tail)
    | none =>
      if separator.isPrefixOf (c :: rest) then some ([], (c :: rest).drop separator.length)
      else none

/-- `oci://<registry>/<repo>[:<tag>]@sha256:<64 lowercase hex>`. -/
def validatePackRef (packRef : String) : Bool :=
  "oci://".toList.isPrefixOf packRef.toList &&
    match rsplitOnce "@sha256:".toList (packRef.toList.drop 6) with
    | none => false
    | some (name, digest) =>
      digest.length = 64 && digest.all (fun c => c.isDigit || 'a' ≤ c && c ≤ 'f') &&
        name ≠ [] && '/' ∈ name

def validateImage (image : String) : Bool :=
  image ≠ "" && image.toList.all fun c =>
    c.isLower || c.isDigit || c ∈ ['.', '-', '_', '/', ':', '@']

def validateRef (formats : Formats) (rel expectedName : String) : Except SorError Unit := do
  validateDevStoreSecretPath formats rel
  if (segments rel)[2]?.any fun category => category ∈ reservedCategories then
    .error (.invalidArgument rel)
  else if (segments rel)[3]? ≠ some expectedName then .error (.invalidArgument rel)
  else .ok ()

def validateOptionalRef (formats : Formats) (expectedName : String) :
    Option String → Except SorError Unit
  | none => .ok ()
  | some rel => validateRef formats rel expectedName

def SorUnit.validate (formats : Formats) (unit : SorUnit) : Except SorError Unit := do
  ensure (validateSorKey unit.sor) (.invalidArgument "sor")
  ensure (validatePackRef unit.packRef) (.invalidArgument "pack_ref")
  ensure (validateImage unit.image) (.invalidArgument "image")
  ensure (trim unit.tenantId ≠ []) (.invalidArgument "tenant_id")
  validateRef formats unit.answersRef "answers"
  validateRef formats unit.postgresUrlRef "postgres_url"
  validateOptionalRef formats "postgres_ca" unit.postgresCaRef
  validateRef formats unit.sharedSecretRef "shared_secret"

/-- `validate_sor_units`, with the ids and the SoRs met so far. -/
def validateSorUnitsFrom (formats : Formats) (ids sors : List String) :
    List SorUnit → Except SorError Unit
  | [] => .ok ()
  | unit :: rest => do
    ensure (isDns1123Label unit.unitId ∧ unit.unitId.utf8ByteSize ≤ maxUnitIdLen)
      (.invalidArgument "unit_id")
    ensure (unit.unitId ∉ ids) (.invalidArgument "unit_id")
    ensure (unit.sor ∉ sors) (.invalidArgument "sor")
    unit.validate formats
    validateSorUnitsFrom formats (unit.unitId :: ids) (unit.sor :: sors) rest

def validateSorUnits (formats : Formats) (units : List SorUnit) : Except SorError Unit :=
  validateSorUnitsFrom formats [] [] units

end GreenticDeployer.Sor
