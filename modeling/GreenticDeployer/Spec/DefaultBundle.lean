import Mathlib.Data.Prod.Lex
import GreenticDeployer.Lib.MaxBy
import GreenticDeployer.Spec.Documents

/-!
# The default bundle of a tenant

The ladder a bare request goes down: the configured bundle, the only active
deployment of the tenant, the newest one.
-/

set_option maxHeartbeats 200000

namespace GreenticDeployer.Spec

open Lib

inductive DefaultBundleReason where
  | explicitConfig
  | loneActive
  | newestActive
  deriving DecidableEq, Repr

def newestDeploymentOrder (a b : BundleDeployment) : Ordering :=
  (compare a.createdAt b.createdAt).then
    (compare a.deploymentId.ulid.toNat b.deploymentId.ulid.toNat)

def isActiveTenant (tenant : String) (b : BundleDeployment) : Bool :=
  b.status = .active && b.routeBinding.tenantSelector.tenant = tenant

namespace Environment

def explicitDefault (env : Environment) (tenant : String) : Option BundleDeployment :=
  match env.hostConfig.defaultBundle with
  | none => none
  | some configured =>
    maxBy newestDeploymentOrder
      (env.bundles.filter fun b => isActiveTenant tenant b && b.bundleId = configured)

def resolveDefaultBundle (env : Environment) (tenant : String) :
    Option (BundleDeployment × DefaultBundleReason) :=
  match env.explicitDefault tenant with
  | some bd => some (bd, .explicitConfig)
  | none =>
    match env.bundles.filter (isActiveTenant tenant) with
    | [] => none
    | [lone] => some (lone, .loneActive)
    | several =>
      (several.insertionSort fun a b => newestDeploymentOrder a b ≠ .lt).head?.map fun newest =>
        (newest, .newestActive)

end Environment

/-- What the order compares: the instant, then the id. -/
def age (b : BundleDeployment) : Int ×ₗ Nat := toLex (b.createdAt, b.deploymentId.ulid.toNat)

def Matches (env : Environment) (tenant : String) (b : BundleDeployment) : Prop :=
  b ∈ env.bundles ∧ b.status = .active ∧ b.routeBinding.tenantSelector.tenant = tenant

def Configured (env : Environment) (tenant : String) (b : BundleDeployment) : Prop :=
  Matches env tenant b ∧ env.hostConfig.defaultBundle = some b.bundleId

/-- The rungs. They ask which deployments an environment has and never where
they stand in the list. -/
inductive Resolves (env : Environment) (tenant : String) :
    Option (BundleDeployment × DefaultBundleReason) → Prop
  | explicitConfig {b : BundleDeployment} (newest : Greatest age (Configured env tenant) b) :
      Resolves env tenant (some (b, .explicitConfig))
  | loneActive {b : BundleDeployment} (missed : ∀ x, ¬Configured env tenant x)
      (lone : ∀ x, Matches env tenant x ↔ x = b) : Resolves env tenant (some (b, .loneActive))
  | newestActive {b : BundleDeployment} (missed : ∀ x, ¬Configured env tenant x)
      (newest : Greatest age (Matches env tenant) b)
      (another : ∃ x, Matches env tenant x ∧ x ≠ b) :
      Resolves env tenant (some (b, .newestActive))
  | absent (missed : ∀ x, ¬Matches env tenant x) : Resolves env tenant none

variable {env : Environment} {tenant : String}

theorem newest_gt (a b : BundleDeployment) :
    newestDeploymentOrder a b = .gt ↔ age b < age a := by
  simp only [newestDeploymentOrder, age, Prod.Lex.toLex_lt_toLex, Ordering.then_eq_gt,
    compare_gt_iff_gt, compare_eq_iff_eq]
  grind

theorem newest_not_lt (a b : BundleDeployment) :
    newestDeploymentOrder a b ≠ .lt ↔ age b ≤ age a := by
  simp only [newestDeploymentOrder, age, Prod.Lex.toLex_le_toLex, Ordering.then_eq_lt, ne_eq,
    compare_lt_iff_lt, compare_eq_iff_eq]
  grind

theorem isActiveTenant_iff {b : BundleDeployment} :
    isActiveTenant tenant b = true ↔
      b.status = .active ∧ b.routeBinding.tenantSelector.tenant = tenant := by
  simp [isActiveTenant]

theorem mem_matching {b : BundleDeployment} :
    b ∈ env.bundles.filter (isActiveTenant tenant) ↔ Matches env tenant b := by
  simp [Matches, isActiveTenant_iff]

theorem explicit_some {b : BundleDeployment} (found : env.explicitDefault tenant = some b) :
    Greatest age (Configured env tenant) b := by
  unfold Environment.explicitDefault at found
  cases configured : env.hostConfig.defaultBundle with
  | none => simp [configured] at found
  | some bundle =>
      simp only [configured] at found
      have greatest := maxBy_greatest newest_gt found
      have same : (· ∈ env.bundles.filter fun b => isActiveTenant tenant b && b.bundleId = bundle) =
          Configured env tenant := by
        funext x
        simp [Configured, Matches, isActiveTenant_iff, configured, and_assoc, @eq_comm _ bundle]
      rwa [same] at greatest

theorem explicit_none (missed : env.explicitDefault tenant = none) (x : BundleDeployment) :
    ¬Configured env tenant x := by
  rintro ⟨matching, named⟩
  simp only [Environment.explicitDefault, named, maxBy_none, List.filter_eq_nil_iff] at missed
  exact missed x matching.1 (by simp [isActiveTenant_iff.mpr matching.2])

theorem resolves (distinct : (env.bundles.map (·.deploymentId)).Nodup) (tenant : String) :
    Resolves env tenant (env.resolveDefaultBundle tenant) := by
  unfold Environment.resolveDefaultBundle
  cases explicit : env.explicitDefault tenant with
  | some b => exact .explicitConfig (explicit_some explicit)
  | none =>
      have missed := explicit_none explicit
      have among : ∀ x, Matches env tenant x ↔ x ∈ env.bundles.filter (isActiveTenant tenant) :=
        fun x => mem_matching.symm
      have apart : (env.bundles.filter (isActiveTenant tenant)).Nodup :=
        distinct.of_map.filter _
      match matching : env.bundles.filter (isActiveTenant tenant) with
      | [] =>
          rw [matching] at among
          exact .absent fun x => by simp [among]
      | [lone] =>
          rw [matching] at among
          exact .loneActive missed fun x => by simp [among]
      | first :: second :: others =>
          rw [matching] at among apart
          have another : ∀ m, ∃ x, Matches env tenant x ∧ x ≠ m := by
            intro m
            have different : first ≠ second := by
              rintro rfl
              simp at apart
            by_cases leading : first = m
            · exact ⟨second, (among second).mpr (by simp),
                fun same => different (leading.trans same.symm)⟩
            · exact ⟨first, (among first).mpr (by simp), leading⟩
          have same := List.perm_insertionSort (fun a b => newestDeploymentOrder a b ≠ .lt)
            (first :: second :: others)
          cases sorted : (first :: second :: others).insertionSort
              fun a b => newestDeploymentOrder a b ≠ .lt with
          | nil => simp [sorted] at same
          | cons m rest =>
              have greatest := greatest_of_sorted newest_not_lt sorted
              have matches_ : (· ∈ first :: second :: others) = Matches env tenant := by
                funext x
                exact propext (among x).symm
              rw [matches_] at greatest
              simpa [sorted] using Resolves.newestActive missed greatest (another m)

theorem eq_of_age (distinct : (env.bundles.map (·.deploymentId)).Nodup)
    {a b : BundleDeployment} (left : a ∈ env.bundles) (right : b ∈ env.bundles)
    (same : age a = age b) : a = b := by
  have ids : a.deploymentId = b.deploymentId := by
    have both : (a.createdAt, a.deploymentId.ulid.toNat) =
        (b.createdAt, b.deploymentId.ulid.toNat) := same
    have bits : a.deploymentId.ulid = b.deploymentId.ulid :=
      BitVec.eq_of_toNat_eq (Prod.mk.inj both).2
    cases ha : a.deploymentId
    cases hb : b.deploymentId
    simpa [ha, hb] using bits
  exact List.inj_on_of_nodup_map distinct left right ids

theorem Resolves.unique (distinct : (env.bundles.map (·.deploymentId)).Nodup)
    {first second : Option (BundleDeployment × DefaultBundleReason)}
    (left : Resolves env tenant first) (right : Resolves env tenant second) : first = second := by
  have apart : ∀ x y, Matches env tenant x → Matches env tenant y → age x = age y → x = y :=
    fun x y one two => eq_of_age distinct one.1 two.1
  cases left with
  | explicitConfig newest =>
      cases right with
      | explicitConfig newest' =>
          rw [newest.unique (fun x y one two => apart x y one.1 two.1) newest']
      | loneActive missed => exact (missed _ newest.1).elim
      | newestActive missed => exact (missed _ newest.1).elim
      | absent missed => exact (missed _ newest.1.1).elim
  | loneActive missed lone =>
      cases right with
      | explicitConfig newest' => exact (missed _ newest'.1).elim
      | loneActive _ lone' => rw [(lone _).mp ((lone' _).mpr rfl)]
      | newestActive _ newest' another =>
          obtain ⟨x, matching, different⟩ := another
          rw [lone] at matching
          have same := (lone _).mp newest'.1
          exact (different (matching.trans same.symm)).elim
      | absent none_ => exact (none_ _ ((lone _).mpr rfl)).elim
  | newestActive missed newest another =>
      cases right with
      | explicitConfig newest' => exact (missed _ newest'.1).elim
      | loneActive _ lone =>
          obtain ⟨x, matching, different⟩ := another
          rw [lone] at matching
          have same := (lone _).mp newest.1
          exact (different (matching.trans same.symm)).elim
      | newestActive _ newest' => rw [newest.unique apart newest']
      | absent none_ => exact (none_ _ newest.1).elim
  | absent none_ =>
      cases right with
      | explicitConfig newest' => exact (none_ _ newest'.1.1).elim
      | loneActive _ lone => exact (none_ _ ((lone _).mpr rfl)).elim
      | newestActive _ newest' => exact (none_ _ newest'.1).elim
      | absent => rfl

theorem Resolves.of_members {bundles : List BundleDeployment}
    (same : ∀ x, x ∈ bundles ↔ x ∈ env.bundles)
    {result : Option (BundleDeployment × DefaultBundleReason)}
    (resolved : Resolves { env with bundles } tenant result) : Resolves env tenant result := by
  have matching : Matches { env with bundles } tenant = Matches env tenant := by
    funext x
    simp [Matches, same]
  have configured : Configured { env with bundles } tenant = Configured env tenant := by
    funext x
    simp [Configured, matching]
  cases resolved with
  | explicitConfig newest => exact .explicitConfig (configured ▸ newest)
  | loneActive missed lone => exact .loneActive (configured ▸ missed) (matching ▸ lone)
  | newestActive missed newest another =>
      exact .newestActive (configured ▸ missed) (matching ▸ newest) (matching ▸ another)
  | absent missed => exact .absent (matching ▸ missed)

/-- A default is one rung of the ladder, and no order of the deployments
changes it. -/
theorem resolve_default_bundle_order (env : Environment) (tenant : String)
    (distinct : (env.bundles.map (·.deploymentId)).Nodup) :
    (∀ bundles, bundles.Perm env.bundles →
        Environment.resolveDefaultBundle { env with bundles } tenant =
          env.resolveDefaultBundle tenant) ∧
      ∀ result, env.resolveDefaultBundle tenant = result ↔ Resolves env tenant result := by
  have resolved := resolves distinct tenant
  constructor
  · intro bundles order
    have permuted : (bundles.map (·.deploymentId)).Nodup :=
      (order.map _).nodup_iff.mpr distinct
    have reordered : Resolves { env with bundles } tenant
        (Environment.resolveDefaultBundle { env with bundles } tenant) := resolves permuted tenant
    have moved : Resolves env tenant
        (Environment.resolveDefaultBundle { env with bundles } tenant) :=
      reordered.of_members fun _ => order.mem_iff
    exact moved.unique distinct resolved
  · intro result
    constructor
    · rintro rfl
      exact resolved
    · exact fun other => resolved.unique distinct other

/-- An active deployment of the tenant `acme`. -/
def acmeBundle (id : Ulid) (bundle : String) (createdAt : DateTime) : BundleDeployment where
  schema := ⟨SchemaVersion.bundleDeploymentV1⟩
  deploymentId := ⟨id⟩
  envId := ⟨"local"⟩
  bundleId := ⟨bundle⟩
  packName := none
  customerId := ⟨"local-dev"⟩
  status := .active
  currentRevisions := []
  routeBinding := ⟨[], [], ⟨"acme", "default"⟩⟩
  revenueShare := []
  revenuePolicyRef := "policy.json"
  usage := none
  createdAt := createdAt
  authorizationRef := "authorization.json"
  configOverrides := BTreeMap.empty

/-- Three deployments; the configured bundle has two of one instant. -/
def acmeBundles (default : Option BundleId) : Environment where
  schema := ⟨SchemaVersion.environmentV1⟩
  environmentId := ⟨"local"⟩
  name := "local"
  hostConfig := ⟨⟨"local"⟩, none, none, none, none, none, default⟩
  packs := []
  credentialsRef := none
  bundles := [acmeBundle 3 "docs" 8, acmeBundle 2 "shop" 5, acmeBundle 1 "shop" 5]
  revisions := []
  trafficSplits := []
  messagingEndpoints := []
  extensions := []
  revocation := ⟨false, none⟩
  retention := ⟨none, none⟩
  health := ⟨.unknown, none, none⟩

theorem resolve_default_bundle_order_of_acme :
    Resolves (acmeBundles (some ⟨"shop"⟩)) "acme" (some (acmeBundle 2 "shop" 5, .explicitConfig)) ∧
      Environment.resolveDefaultBundle
          { acmeBundles none with bundles := (acmeBundles none).bundles.reverse } "acme" =
        some (acmeBundle 3 "docs" 8, .newestActive) := by
  have explicit := resolve_default_bundle_order (acmeBundles (some ⟨"shop"⟩)) "acme" (by decide)
  have implicit := resolve_default_bundle_order (acmeBundles none) "acme" (by decide)
  constructor
  · exact (explicit.2 _).mp (by decide)
  · rw [implicit.1 _ (List.reverse_perm _)]
    decide

end GreenticDeployer.Spec
