import GreenticDeployer.Sor.Units
import Mathlib.Data.List.Dedup

/-!
# Where credential material may land

The dev-store keys that stand for the deployer's own credential: what a bootstrap
may bind, what a staging strips, what a put refuses. A key counts without the
version its last segment may carry.
-/

set_option maxHeartbeats 200000

namespace GreenticDeployer.Credentials

open Spec Lib Sor

/-- The functions of the secrets library the code calls: `SecretRef::try_new`,
`SecretRef::to_store_uri` and the formats of a path's segments. -/
structure SecretsLib where
  formats : Formats
  tryNew : String → Option SecretRef
  toStoreUri : SecretRef → Option SecretUri

def resolveDevStorePath {P : Type} (present : P → Bool) (primary fallback : P)
    (overridePath : Option P) : P :=
  match overridePath with
  | some path => path
  | none => if present primary then primary else if present fallback then fallback else primary

def secretText (env path : String) : String := "secret://" ++ env ++ "/" ++ path

/-- What is documented of the references of one environment. A store URI without its
version is again the text of a store-aligned reference, and a conversion rewrites
nothing but the team: a path of the team `_` comes back as it is. -/
structure SecretsLib.Documented (lib : SecretsLib) (env : String) : Prop where
  aligned : ∀ bound uri path, lib.toStoreUri bound = some uri → uri.envSegment = env →
    segments path = versionlessSegments uri.relPath →
    ((lib.tryNew (secretText env path)).bind lib.toStoreUri).isSome
  verbatim : ∀ path uri, (segments path)[1]? = some "_" →
    (lib.tryNew (secretText env path)).bind lib.toStoreUri = some uri → uri = ⟨env, path⟩

/-- The identity that exclusions compare: the key without its version. -/
def versionless (uri : SecretUri) : String × List String :=
  (uri.envSegment, versionlessSegments uri.relPath)

def splitStoreUri (uri : SecretUri) : Option (String × List String) :=
  if uri.envSegment = "" ∨ uri.relPath = "" then none else some (versionless uri)

/-- `landing_is_covered`: the error is where the material would have landed. -/
def landingIsCovered (lib : SecretsLib) (bound : SecretRef) (envId : EnvId)
    (declared : Option String) : Except (Option (String × List String)) Unit :=
  let landing := (lib.toStoreUri bound).bind splitStoreUri
  match landing, declared with
  | some (refEnv, rel), some path =>
    ensure (refEnv = envId.asStr ∧ rel = segments path ∧ path ∈ boundCredentialStorePaths) landing
  | _, _ => .error landing

/-- The bound credential paths as keys of an environment. -/
def reservedUris (lib : SecretsLib) (env : String) : List SecretUri :=
  boundCredentialStorePaths.filterMap fun path =>
    (lib.tryNew (secretText env path)).bind lib.toStoreUri

def stagingExcludedUris (lib : SecretsLib) (env : Environment) : List SecretUri :=
  let uris := reservedUris lib env.environmentId.asStr
  match env.credentialsRef.bind lib.toStoreUri with
  | some cred => if cred ∈ uris then uris else uris ++ [cred]
  | none => uris

/-- `sor_input_uris`: the inputs declared and the inputs recorded, each once. -/
def sorInputUris (envId : EnvId) (units : List SorUnit) (ledger : List AppliedSorUnit) :
    List SecretUri :=
  let declared := units.flatMap SorUnit.inputRefs
  let recorded := ledger.flatMap AppliedSorUnit.inputRefs
  (declared ++ recorded).dedup.map (devStoreKey envId)

def Names (uris : List SecretUri) (key : SecretUri) : Prop :=
  ∃ uri ∈ uris, versionless uri = versionless key

instance (uris : List SecretUri) (key : SecretUri) : Decidable (Names uris key) :=
  inferInstanceAs (Decidable (∃ uri ∈ uris, versionless uri = versionless key))

theorem names_append {left right : List SecretUri} {key : SecretUri} :
    Names (left ++ right) key ↔ Names left key ∨ Names right key := by
  simp only [Names, List.mem_append, or_and_right, exists_or]

theorem mem_stagingExcludedUris {lib : SecretsLib} {env : Environment} {uri : SecretUri} :
    uri ∈ stagingExcludedUris lib env ↔
      uri ∈ reservedUris lib env.environmentId.asStr ∨
        env.credentialsRef.bind lib.toStoreUri = some uri := by
  simp only [stagingExcludedUris]
  cases bound : env.credentialsRef.bind lib.toStoreUri with
  | none => simp
  | some cred =>
      dsimp only
      split
      · rename_i present
        constructor
        · exact .inl
        · rintro (reserved | same)
          · exact reserved
          · cases same
            exact present
      · simp [eq_comm]

/-- The key stands where the reference points. -/
def AtRef (lib : SecretsLib) (bound : Option SecretRef) (key : SecretUri) : Prop :=
  ∃ uri, bound.bind lib.toStoreUri = some uri ∧ versionless uri = versionless key

theorem names_stagingExcludedUris {lib : SecretsLib} {env : Environment} {key : SecretUri} :
    Names (stagingExcludedUris lib env) key ↔
      Names (reservedUris lib env.environmentId.asStr) key ∨ AtRef lib env.credentialsRef key := by
  simp only [Names, AtRef, mem_stagingExcludedUris, or_and_right, exists_or]

theorem isReservedRelPath_iff {rel : String} :
    isReservedRelPath rel = true ↔
      ∃ path ∈ boundCredentialStorePaths, segments path = versionlessSegments rel := by
  simp [isReservedRelPath]

theorem team_of_reserved : ∀ path ∈ boundCredentialStorePaths, (segments path)[1]? = some "_" := by
  decide

theorem versionless_of_reserved :
    ∀ path ∈ boundCredentialStorePaths, versionlessSegments path = segments path := by
  decide

/-- A covered landing is a reserved key of the environment. -/
theorem names_of_landing {lib : SecretsLib} {bound : SecretRef} {envId : EnvId}
    {declared : Option String} {uri : SecretUri} (documented : lib.Documented envId.asStr)
    (covered : landingIsCovered lib bound envId declared = .ok ())
    (lands : lib.toStoreUri bound = some uri) : Names (reservedUris lib envId.asStr) uri := by
  simp only [landingIsCovered, lands, Option.bind_some] at covered
  cases split : splitStoreUri uri with
  | none =>
      rw [split] at covered
      cases covered
  | some landing =>
      cases declared with
      | none =>
          rw [split] at covered
          cases covered
      | some path =>
          rw [split] at covered
          obtain ⟨sameEnv, samePath, reserved⟩ := ensure_ok covered
          have landed : landing = versionless uri := by
            unfold splitStoreUri at split
            split at split
            · cases split
            · exact (Option.some.inj split).symm
          rw [landed] at sameEnv samePath
          have accepted := documented.aligned bound uri path lands sameEnv samePath.symm
          obtain ⟨again, converted⟩ := Option.isSome_iff_exists.mp accepted
          have same := documented.verbatim path again (team_of_reserved path reserved) converted
          refine ⟨again, List.mem_filterMap.mpr ⟨path, reserved, converted⟩, ?_⟩
          rw [same]
          exact Prod.ext sameEnv.symm ((versionless_of_reserved path reserved).trans samePath.symm)

theorem reserved_of_names {lib : SecretsLib} {env : String} {key : SecretUri}
    (documented : lib.Documented env) (named : Names (reservedUris lib env) key) :
    isReservedRelPath key.relPath = true := by
  obtain ⟨uri, member, same⟩ := named
  obtain ⟨path, reserved, converted⟩ := List.mem_filterMap.mp member
  have verbatim := documented.verbatim path uri (team_of_reserved path reserved) converted
  refine isReservedRelPath_iff.mpr ⟨path, reserved, ?_⟩
  calc
    segments path = versionlessSegments path := (versionless_of_reserved path reserved).symm
    _ = versionlessSegments uri.relPath := by rw [verbatim]
    _ = versionlessSegments key.relPath := congrArg Prod.snd same

end GreenticDeployer.Credentials
