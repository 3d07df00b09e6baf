import GreenticDeployer.Store.Sqlite
import GreenticDeployer.Engine.Accounts
import GreenticDeployer.Engine.Retirement

/-!
# The ownership ledger of an apply

Which deployments each manifest owns is kept beside the environment document. A
prune takes its own manifest's entries only, and none that another one has too.
-/

set_option maxHeartbeats 200000

namespace GreenticDeployer.Apply

open Spec Lib Engine

structure OwnedDeployment where
  deploymentId : DeploymentId
  bundleId : BundleId
  customerId : CustomerId
  deriving DecidableEq

/-- The derived order: by id, then bundle, then customer. -/
def OwnedDeployment.le (a b : OwnedDeployment) : Bool :=
  a.deploymentId.ulid < b.deploymentId.ulid ||
    (a.deploymentId = b.deploymentId &&
      (a.bundleId.asStr < b.bundleId.asStr ||
        (a.bundleId = b.bundleId && a.customerId.asStr ≤ b.customerId.asStr)))

structure OwnerEntry where
  manifest : String
  deployments : List OwnedDeployment
  deriving DecidableEq

def ledgerSchemaV1 : String := "greentic.env-apply-ownership.v1"

structure OwnershipLedger where
  schema : String
  owners : BTreeMap OwnerEntry
  deriving DecidableEq

def OwnershipLedger.default : OwnershipLedger := ⟨ledgerSchemaV1, BTreeMap.empty⟩

/-- Identity of one manifest: the key hashed from its canonical path, and the path. -/
structure Owner where
  key : String
  manifest : String
  deriving DecidableEq

/-- What the environment deploys, as the ledger writes it down. -/
def ownedOf (b : BundleDeployment) : OwnedDeployment := ⟨b.deploymentId, b.bundleId, b.customerId⟩

def census (env : Environment) : List OwnedDeployment := env.bundles.map ownedOf

def OwnershipLedger.entry (ledger : OwnershipLedger) (key : String) : Option OwnerEntry :=
  (ledger.owners.entries.find? fun entry => entry.1 = key).map Prod.snd

/-- What an owner may prune: its own entries that still match the environment and
that no other owner claims. -/
def OwnershipLedger.prunableBy (ledger : OwnershipLedger) (owner : Owner) (env : Environment) :
    List DeploymentId :=
  match ledger.entry owner.key with
  | none => []
  | some mine =>
    let claimedElsewhere := (ledger.owners.entries.filter fun entry => entry.1 ≠ owner.key).flatMap
      fun entry => entry.2.deployments.map (·.deploymentId)
    ((mine.deployments.filter fun d => d.deploymentId ∉ claimedElsewhere).filter fun d =>
      env.bundles.any fun b => b.deploymentId = d.deploymentId ∧ b.bundleId = d.bundleId ∧
        b.customerId = d.customerId).map (·.deploymentId)

inductive LedgerError where
  | unreadable
  | unsupportedSchema (schema : String)
  deriving DecidableEq

/-- Read the ledger: an absent file is an empty ledger, one of another schema an
error. -/
def loadLedger : Option OwnershipLedger → Except LedgerError OwnershipLedger
  | none => .ok OwnershipLedger.default
  | some ledger =>
    if ledger.schema ≠ ledgerSchemaV1 then .error (.unsupportedSchema ledger.schema)
    else .ok ledger

def retainLive (live : List DeploymentId) (entry : OwnerEntry) : OwnerEntry :=
  { entry with deployments := entry.deployments.filter fun d => d.deploymentId ∈ live }

def ownEntry (env : Environment) (owner : Owner) (declared : List DeploymentId)
    (before : Option OwnerEntry) : OwnerEntry :=
  let had := (before.map (retainLive (deploymentIds env))).elim [] (·.deployments)
  let keep := had.map (·.deploymentId) ++ declared
  ⟨owner.manifest, ((env.bundles.filter fun b => b.deploymentId ∈ keep).map ownedOf).insertionSort
    fun a b => a.le b⟩

def recordedEntries (env : Environment) (owner : Owner) (declared : List DeploymentId)
    (before : OwnershipLedger) : List (String × OwnerEntry) :=
  (Store.BTreeMap.insert owner.key (ownEntry env owner declared (before.entry owner.key))
    (before.owners.entries.map fun entry =>
      (entry.1, retainLive (deploymentIds env) entry.2))).filter fun entry =>
    entry.2.deployments ≠ []

theorem recordedEntries_ascending (env : Environment) (owner : Owner)
    (declared : List DeploymentId) (before : OwnershipLedger) :
    ((recordedEntries env owner declared before).map Prod.fst).Pairwise (· < ·) := by
  refine (Store.BTreeMap.insert_ascending _ _ _ ?_).sublist (List.filter_sublist.map _)
  rw [List.map_map]
  exact before.owners.ascending

/-- Rewrite the owner's entry from an environment, and drop what that environment
no longer has from every other one. -/
def recordOwnership (env : Environment) (owner : Owner) (declared : List DeploymentId)
    (before : OwnershipLedger) : OwnershipLedger :=
  { before with
    owners := ⟨recordedEntries env owner declared before,
      recordedEntries_ascending env owner declared before⟩ }

/-- A bundle of the manifest, with the customer it is resolved to. -/
structure Declaration where
  bundleId : BundleId
  customerId : CustomerId
  deriving DecidableEq

def declaredIds (env : Environment) (bundles : List Declaration) : List DeploymentId :=
  bundles.filterMap fun declared =>
    (env.bundles.find? fun b =>
      b.bundleId = declared.bundleId ∧ b.customerId = declared.customerId).map (·.deploymentId)

def prunePlan (env : Environment) (owned declared : List DeploymentId) : List DeploymentId :=
  (deploymentIds env).filter fun d => d ∈ owned ∧ d ∉ declared

def OwnershipLedger.Owns (ledger : OwnershipLedger) (key : String) (owned : OwnedDeployment) :
    Prop :=
  ∃ entry, (key, entry) ∈ ledger.owners.entries ∧ owned ∈ entry.deployments

theorem entry_unique {ν : Type} {map : BTreeMap ν} {key : String} {left right : ν}
    (first : (key, left) ∈ map.entries) (second : (key, right) ∈ map.entries) : left = right := by
  have distinct : (map.entries.map Prod.fst).Nodup :=
    map.ascending.imp fun less same => absurd (same ▸ less) (String.lt_irrefl _)
  exact congrArg Prod.snd (List.inj_on_of_nodup_map distinct first second rfl)

theorem OwnershipLedger.entry_eq_some {ledger : OwnershipLedger} {key : String}
    {entry : OwnerEntry} :
    ledger.entry key = some entry ↔ (key, entry) ∈ ledger.owners.entries := by
  simp only [OwnershipLedger.entry, Option.map_eq_some_iff]
  constructor
  · rintro ⟨⟨named, stored⟩, found, rfl⟩
    have same : named = key := by simpa using List.find?_some found
    exact same ▸ List.mem_of_find?_eq_some found
  · intro member
    cases found : ledger.owners.entries.find? (fun entry => decide (entry.1 = key)) with
    | none => simpa using List.find?_eq_none.mp found _ member
    | some stored =>
        obtain ⟨named, other⟩ := stored
        have same : named = key := by simpa using List.find?_some found
        subst same
        exact ⟨_, rfl, entry_unique (List.mem_of_find?_eq_some found) member⟩

theorem mem_insert {ν : Type} {key named : String} {value stored : ν}
    {entries : List (String × ν)} :
    (named, stored) ∈ Store.BTreeMap.insert key value entries ↔
      (named = key ∧ stored = value) ∨ (named ≠ key ∧ (named, stored) ∈ entries) := by
  simp only [Store.BTreeMap.insert, List.mem_append, List.mem_cons, List.mem_filter,
    Prod.mk.injEq, decide_eq_true_eq]
  constructor
  · rintro (⟨member, below⟩ | same | ⟨member, above⟩)
    · exact .inr ⟨String.ne_of_lt below, member⟩
    · exact .inl same
    · exact .inr ⟨(String.ne_of_lt above).symm, member⟩
  · rintro (same | ⟨other, member⟩)
    · exact .inr (.inl same)
    · rcases lt_or_gt_of_ne other with below | above
      · exact .inl ⟨member, below⟩
      · exact .inr (.inr ⟨member, above⟩)

theorem mem_recordedEntries {env : Environment} {owner : Owner} {declared : List DeploymentId}
    {before : OwnershipLedger} {key : String} {entry : OwnerEntry} :
    (key, entry) ∈ recordedEntries env owner declared before ↔
      entry.deployments ≠ [] ∧
        ((key = owner.key ∧ entry = ownEntry env owner declared (before.entry owner.key)) ∨
          (key ≠ owner.key ∧ ∃ old, (key, old) ∈ before.owners.entries ∧
            entry = retainLive (deploymentIds env) old)) := by
  simp only [recordedEntries, List.mem_filter, mem_insert, List.mem_map, Prod.mk.injEq,
    decide_eq_true_eq, Prod.exists, and_comm (b := entry.deployments ≠ [])]
  constructor
  · rintro ⟨filled, own | ⟨other, named, old, member, rfl, rfl⟩⟩
    · exact ⟨filled, .inl own⟩
    · exact ⟨filled, .inr ⟨other, old, member, rfl⟩⟩
  · rintro ⟨filled, own | ⟨other, old, member, rfl⟩⟩
    · exact ⟨filled, .inl own⟩
    · exact ⟨filled, .inr ⟨other, key, old, member, rfl, rfl⟩⟩

theorem mem_census {env : Environment} {owned : OwnedDeployment} :
    owned ∈ census env ↔ ∃ b ∈ env.bundles, ownedOf b = owned := List.mem_map

theorem census_ids (env : Environment) :
    (census env).map (·.deploymentId) = deploymentIds env := by
  simp only [census, deploymentIds, List.map_map]
  rfl

theorem id_mem_of_census {env : Environment} {owned : OwnedDeployment}
    (member : owned ∈ census env) : owned.deploymentId ∈ deploymentIds env := by
  rw [← census_ids]
  exact List.mem_map_of_mem member

theorem mem_ownEntry {env : Environment} {owner : Owner} {declared : List DeploymentId}
    {before : OwnershipLedger} {owned : OwnedDeployment} :
    owned ∈ (ownEntry env owner declared (before.entry owner.key)).deployments ↔
      owned ∈ census env ∧ (owned.deploymentId ∈ declared ∨
        ∃ old, before.Owns owner.key old ∧ old.deploymentId = owned.deploymentId) := by
  have had : ∀ id ∈ deploymentIds env,
      id ∈ (((before.entry owner.key).map (retainLive (deploymentIds env))).elim []
        (·.deployments)).map (·.deploymentId) ↔
      ∃ old, before.Owns owner.key old ∧ old.deploymentId = id := by
    intro id live
    cases stored : before.entry owner.key with
    | none =>
        simp only [Option.map_none, Option.elim_none, List.map_nil, List.not_mem_nil, false_iff]
        rintro ⟨old, ⟨entry, member, -⟩, -⟩
        rw [OwnershipLedger.entry_eq_some.mpr member] at stored
        cases stored
    | some entry =>
        have member := OwnershipLedger.entry_eq_some.mp stored
        simp only [Option.map_some, Option.elim_some, retainLive, List.mem_map, List.mem_filter,
          decide_eq_true_eq]
        constructor
        · rintro ⟨old, ⟨listed, -⟩, rfl⟩
          exact ⟨old, ⟨entry, member, listed⟩, rfl⟩
        · rintro ⟨old, ⟨other, stored, listed⟩, rfl⟩
          rw [entry_unique stored member] at listed
          exact ⟨old, ⟨listed, live⟩, rfl⟩
  simp only [ownEntry, List.mem_insertionSort, List.mem_map, List.mem_filter, List.mem_append,
    decide_eq_true_eq, mem_census]
  constructor
  · rintro ⟨b, ⟨deployed, kept⟩, rfl⟩
    refine ⟨⟨b, deployed, rfl⟩, ?_⟩
    rcases kept with old | new
    · exact .inr ((had _ (List.mem_map_of_mem deployed)).mp (List.mem_map.mpr old))
    · exact .inl new
  · rintro ⟨⟨b, deployed, rfl⟩, kept⟩
    refine ⟨b, ⟨deployed, ?_⟩, rfl⟩
    rcases kept with new | old
    · exact .inr new
    · exact .inl (List.mem_map.mp ((had _ (List.mem_map_of_mem deployed)).mpr old))

theorem recordOwnership_owns {env : Environment} {owner : Owner} {declared : List DeploymentId}
    {before : OwnershipLedger} {key : String} {owned : OwnedDeployment} :
    (recordOwnership env owner declared before).Owns key owned ↔
      (key = owner.key ∧ owned ∈ census env ∧ (owned.deploymentId ∈ declared ∨
        ∃ old, before.Owns key old ∧ old.deploymentId = owned.deploymentId)) ∨
      (key ≠ owner.key ∧ before.Owns key owned ∧ owned.deploymentId ∈ deploymentIds env) := by
  simp only [OwnershipLedger.Owns, recordOwnership, mem_recordedEntries]
  constructor
  · rintro ⟨entry, ⟨-, ⟨rfl, rfl⟩ | ⟨other, old, member, rfl⟩⟩, listed⟩
    · exact .inl ⟨rfl, mem_ownEntry.mp listed⟩
    · obtain ⟨listed, live⟩ := List.mem_filter.mp listed
      exact .inr ⟨other, ⟨old, member, listed⟩, of_decide_eq_true live⟩
  · rintro (⟨rfl, listed⟩ | ⟨other, ⟨old, member, listed⟩, live⟩)
    · have inside := mem_ownEntry.mpr listed
      exact ⟨_, ⟨List.ne_nil_of_mem inside, .inl ⟨rfl, rfl⟩⟩, inside⟩
    · have inside : owned ∈ (retainLive (deploymentIds env) old).deployments :=
        List.mem_filter.mpr ⟨listed, decide_eq_true live⟩
      exact ⟨_, ⟨List.ne_nil_of_mem inside, .inr ⟨other, old, member, rfl⟩⟩, inside⟩

theorem mem_prunableBy {ledger : OwnershipLedger} {owner : Owner} {env : Environment}
    {id : DeploymentId} (prunable : id ∈ ledger.prunableBy owner env) :
    (∃ owned ∈ census env, ledger.Owns owner.key owned ∧ owned.deploymentId = id) ∧
      ∀ key owned, key ≠ owner.key → ledger.Owns key owned → owned.deploymentId ≠ id := by
  simp only [OwnershipLedger.prunableBy] at prunable
  cases stored : ledger.entry owner.key with
  | none =>
      rw [stored] at prunable
      cases prunable
  | some mine =>
      simp only [stored, List.mem_map, List.mem_filter, List.any_eq_true, decide_eq_true_eq,
        List.mem_flatMap, not_exists, not_and] at prunable
      obtain ⟨owned, ⟨⟨listed, elsewhere⟩, b, deployed, sameId, sameBundle, sameCustomer⟩, rfl⟩ :=
        prunable
      have recorded : ownedOf b = owned := by rw [ownedOf, sameId, sameBundle, sameCustomer]
      refine ⟨⟨owned, mem_census.mpr ⟨b, deployed, recorded⟩,
        ⟨mine, OwnershipLedger.entry_eq_some.mp stored, listed⟩, rfl⟩, ?_⟩
      rintro key other apart ⟨entry, member, claimed⟩
      exact elsewhere (key, entry) ⟨member, apart⟩ other claimed

theorem mem_prunePlan {env : Environment} {owned declared : List DeploymentId}
    {id : DeploymentId} (planned : id ∈ prunePlan env owned declared) :
    id ∈ owned ∧ id ∉ declared := by
  simpa using (List.mem_filter.mp planned).2

theorem mem_declaredIds {env : Environment} {bundles : List Declaration}
    {owned : OwnedDeployment} (apart : CustomersApart env) (deployed : owned ∈ census env)
    (declared : ⟨owned.bundleId, owned.customerId⟩ ∈ bundles) :
    owned.deploymentId ∈ declaredIds env bundles := by
  obtain ⟨b, member, rfl⟩ := mem_census.mp deployed
  refine List.mem_filterMap.mpr ⟨_, declared, ?_⟩
  cases found : env.bundles.find? (fun other => decide (other.bundleId = b.bundleId ∧
      other.customerId = b.customerId)) with
  | none => exact absurd (List.find?_eq_none.mp found b member) (by simp)
  | some other =>
      have same : other.bundleId = b.bundleId ∧ other.customerId = b.customerId := by
        simpa using List.find?_some found
      have equal : other = b := List.inj_on_of_nodup_map apart (List.mem_of_find?_eq_some found)
        member (Prod.ext same.1 same.2)
      exact (congrArg (Option.map (·.deploymentId)) found).trans (by rw [equal])

variable {serde : SerdeJson}

theorem RevisionEdit.census {id : RevisionId} {env after : Environment}
    (edit : RevisionEdit id env after) : census after = census env := by
  cases edit with
  | keep => rfl
  | stage => rfl
  | advance found new bundles located sameId sameDeployment sameBundle hop keeps tracking =>
      rcases tracking with rfl | rfl
      · rfl
      · simp only [Apply.census, untrack, List.map_map]
        apply List.map_congr_left
        intro b _
        simp only [Function.comp]
        split <;> rfl

theorem pin_census (env : Environment) (index : Nat) (policyRef : PathBuf) :
    census (pinRevenuePolicyRef env index policyRef) = census env := by
  apply List.ext_getElem?
  intro i
  simp only [census, pinRevenuePolicyRef, List.getElem?_map, List.getElem?_modify]
  cases env.bundles[i]? with
  | none => rfl
  | some b => by_cases same : index = i <;> simp [same, ownedOf]

theorem add_census (ext : Externals) (env : Environment) (payload : AddBundlePayload)
    (id : DeploymentId) (now : DateTime) (policyRef : PathBuf) :
    census (persist serde ext env (.addBundle payload id now policyRef)) ⊆
      census env ++ [⟨id, payload.bundleId, payload.customerId⟩] := by
  by_cases taken : env.bundles.any (fun b =>
      b.bundleId = payload.bundleId ∧ b.customerId = payload.customerId) = true
  · simp only [persist, addBundle, if_pos taken]
    exact List.subset_append_left _ _
  · simp only [persist, addBundle, if_neg taken, pin_census]
    simp only [census, List.map_append, List.map_cons, List.map_nil, ownedOf]
    exact List.Subset.refl _

theorem update_census (ext : Externals) (env : Environment) (payload : UpdateBundlePayload)
    (policyRef : PathBuf) :
    census (persist serde ext env (.updateBundle payload policyRef)) = census env := by
  simp only [persist, updateBundle]
  cases located : locate (fun b => b.deploymentId = payload.deploymentId) env.bundles with
  | none => rfl
  | some found =>
      have kept : (found.replace (patchBundle payload found.hit)).map ownedOf =
          env.bundles.map ownedOf := Located.map_replace located _ rfl
      dsimp only
      split
      · rw [pin_census]
        exact kept
      · exact kept

def deploys : Verb → Option OwnedDeployment
  | .addBundle payload id _ _ => some ⟨id, payload.bundleId, payload.customerId⟩
  | _ => none

theorem persist_census (ext : Externals) (env : Environment) (verb : Verb)
    {owned : OwnedDeployment} (member : owned ∈ census (persist serde ext env verb)) :
    owned ∈ census env ∨ deploys verb = some owned := by
  have same : census (persist serde ext env verb) = census env → owned ∈ census env :=
    fun equal => equal ▸ member
  by_cases plain : verb.leavesBundles = true
  · exact .inl (same (congrArg (List.map ownedOf) (persist_bundles ext env verb plain)))
  cases verb with
  | stageRevision payload now => exact .inl (same (RevisionEdit.census (persist_stage env _ now)))
  | warmRevision payload now => exact .inl (same (RevisionEdit.census (persist_warm env _ now)))
  | drainRevision id => exact .inl (same (RevisionEdit.census (persist_drain env id)))
  | archiveRevision id => exact .inl (same (RevisionEdit.census (persist_archive env id)))
  | addBundle payload id now policyRef =>
      rcases List.mem_append.mp (add_census ext env payload id now policyRef member) with old | new
      · exact .inl old
      · rw [List.mem_singleton.mp new]
        exact .inr rfl
  | updateBundle payload policyRef => exact .inl (same (update_census ext env payload policyRef))
  | removeBundle id => exact .inl (removeBundle_map ownedOf env id member)
  | beginRetire id => exact .inl (same (beginRetire_map ownedOf (fun _ => rfl) env id))
  | _ => exact absurd rfl plain

end GreenticDeployer.Apply
