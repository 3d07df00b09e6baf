import Mathlib.Data.List.Permutation
import GreenticDeployer.Lib.Results
import GreenticDeployer.Engine.PersistRule

/-!
# Retiring a set

A set check asks once, before anything runs, what each member asks when its turn
comes. By then the members before it are archived and the ones after it are not.
-/

set_option maxHeartbeats 200000

namespace GreenticDeployer.Engine

open Spec Lib

/-- `begin_retire` for each of a list of deployments, up to the first refusal. -/
def retireAll (env : Environment) : List DeploymentId → Except RemovalError Environment
  | [] => .ok env
  | id :: rest =>
    match beginRetire env id with
    | (.error e, _) => .error e
    | (.ok _, after) => retireAll after rest

def Unlinked (env : Environment) (bundleId : BundleId) : Prop :=
  ∀ endpoint ∈ env.messagingEndpoints, linksBundle bundleId endpoint = false

def Survives (env : Environment) (gone : List DeploymentId) (bundleId : BundleId) : Prop :=
  ∃ b ∈ env.bundles, b.bundleId = bundleId ∧ b.deploymentId ∉ gone ∧ b.status ≠ .archived

/-- A deployment whose bundle is linked by no endpoint or survives the set. -/
def MayGo (env : Environment) (gone : List DeploymentId) (id : DeploymentId) : Prop :=
  ∃ bundleId, deploymentBundle env id = some bundleId ∧
    (Survives env gone bundleId ∨ Unlinked env bundleId)

variable {env : Environment}

theorem Survives.anti {fewer more : List DeploymentId} {bundleId : BundleId}
    (survives : Survives env more bundleId) (within : fewer ⊆ more) :
    Survives env fewer bundleId := by
  obtain ⟨b, inside, same, outside, live⟩ := survives
  exact ⟨b, inside, same, fun member => outside (within member), live⟩

theorem MayGo.anti {fewer more : List DeploymentId} {id : DeploymentId} (may : MayGo env more id)
    (within : fewer ⊆ more) : MayGo env fewer id := by
  obtain ⟨bundleId, present, fine⟩ := may
  exact ⟨bundleId, present, fine.imp_left fun survives => survives.anti within⟩

theorem checkBundleLinks_ok {gone : List DeploymentId} {bundles : List BundleId} :
    checkBundleLinks env gone bundles = .ok () ↔
      ∀ bundleId ∈ bundles, Survives env gone bundleId ∨ Unlinked env bundleId := by
  induction bundles with
  | nil => simp [checkBundleLinks]
  | cons bundleId rest ih =>
      have survives : (env.bundles.any fun b =>
          b.bundleId = bundleId ∧ b.deploymentId ∉ gone ∧ b.status ≠ .archived) = true ↔
          Survives env gone bundleId := by
        simp only [List.any_eq_true, decide_eq_true_eq, Survives]
      have unlinked : (env.messagingEndpoints.filter (linksBundle bundleId)).map
          (·.displayName) = [] ↔ Unlinked env bundleId := by
        simp [Unlinked, List.filter_eq_nil_iff]
      rw [checkBundleLinks, List.forall_mem_cons, ← ih, ← unlinked]
      by_cases vouched : Survives env gone bundleId
      · simp only [if_pos (survives.mpr vouched), vouched, true_or, true_and]
      · rw [if_neg (mt survives.mp vouched)]
        by_cases free : (env.messagingEndpoints.filter (linksBundle bundleId)).map
            (·.displayName) = []
        · simp [vouched, free]
        · simp [vouched, free]

theorem collect_ok {gone ids : List DeploymentId} {seen : List BundleId} :
    (retiringBundles env ids seen >>= checkBundleLinks env gone) = .ok () ↔
      (∀ bundleId ∈ seen, Survives env gone bundleId ∨ Unlinked env bundleId) ∧
        ∀ id ∈ ids, MayGo env gone id := by
  induction ids generalizing seen with
  | nil =>
      rw [retiringBundles, bind_of_ok rfl, checkBundleLinks_ok]
      simp
  | cons id rest ih =>
      rw [List.forall_mem_cons]
      cases located : locate (fun b => b.deploymentId = id) env.bundles with
      | none =>
          have unlisted : ¬MayGo env gone id := by
            rintro ⟨bundleId, present, -⟩
            simp [deploymentBundle, find?_eq_locate, located] at present
          have refused : retiringBundles env (id :: rest) seen =
              .error (.deploymentNotFound id env.environmentId) := by
            simp [retiringBundles, deploymentIndex, located]
          rw [refused]
          constructor
          · intro collected
            cases collected
          · intro asked
            exact (unlisted asked.2.1).elim
      | some found =>
          have listed : MayGo env gone id ↔
              (Survives env gone found.hit.bundleId ∨ Unlinked env found.hit.bundleId) := by
            simp [MayGo, deploymentBundle, find?_eq_locate, located]
          have next : retiringBundles env (id :: rest) seen = retiringBundles env rest
              (if found.hit.bundleId ∈ seen then seen else seen ++ [found.hit.bundleId]) := by
            simp [retiringBundles, deploymentIndex, located]
          rw [next, ih, listed]
          by_cases known : found.hit.bundleId ∈ seen
          · rw [if_pos known]
            exact ⟨fun asked => ⟨asked.1, asked.1 _ known, asked.2⟩,
              fun asked => ⟨asked.1, asked.2.2⟩⟩
          · rw [if_neg known]
            simp only [List.forall_mem_append, List.forall_mem_singleton, and_assoc]

theorem checkRetireSetLinks_ok {ids : List DeploymentId} :
    checkRetireSetLinks env ids = .ok () ↔ ∀ id ∈ ids, MayGo env ids id := by
  have shape : checkRetireSetLinks env ids =
      (retiringBundles env ids [] >>= checkBundleLinks env ids) := by
    unfold checkRetireSetLinks
    cases retiringBundles env ids [] <;> rfl
  rw [shape, collect_ok]
  simp

/-- The members archived and their splits dropped. -/
def retired (env : Environment) (gone : List DeploymentId) : Environment :=
  { env with
    bundles := env.bundles.map fun b =>
      if b.deploymentId ∈ gone then { b with status := .archived } else b
    trafficSplits := gone.foldl (fun splits id => splits.eraseP fun s => s.deploymentId = id)
      env.trafficSplits }

theorem takeSplit_eq (env : Environment) (id : DeploymentId) :
    (takeSplit env id).2 =
      { env with trafficSplits := env.trafficSplits.eraseP fun s => s.deploymentId = id } := by
  unfold takeSplit
  cases located : locate (fun s => decide (s.deploymentId = id)) env.trafficSplits with
  | none =>
      have kept : env.trafficSplits.eraseP (fun s => s.deploymentId = id) = env.trafficSplits :=
        List.eraseP_of_forall_not fun s member => by simpa using locate_eq_none.mp located s member
      simp only [kept]
  | some found => simp [Located.eraseP_eq located]

theorem replace_archived {id : DeploymentId} {found : Located BundleDeployment}
    (located : locate (fun b => b.deploymentId = id) env.bundles = some found)
    (once : env.bundles.countP (fun b => b.deploymentId = id) = 1) :
    found.replace { found.hit with status := .archived } =
      env.bundles.map fun b =>
        if b.deploymentId ∈ [id] then { b with status := .archived } else b := by
  obtain ⟨shape, hit, earlier⟩ := locate_eq_some located
  have own : found.hit.deploymentId = id := of_decide_eq_true hit
  have before : ∀ b ∈ found.before, b.deploymentId ≠ id := by simpa using earlier
  have after : ∀ b ∈ found.after, b.deploymentId ≠ id := by
    have none_ : found.after.countP (fun b => b.deploymentId = id) = 0 := by
      rw [shape, List.countP_append, List.countP_cons, if_pos hit] at once
      omega
    simpa using List.countP_eq_zero.mp none_
  have same : ∀ side : List BundleDeployment, (∀ b ∈ side, b.deploymentId ≠ id) →
      (side.map fun b => if b.deploymentId ∈ [id] then { b with status := .archived } else b) =
        side := by
    intro side apart
    calc _ = side.map (fun b => b) :=
          List.map_congr_left fun b member => if_neg (by simpa using apart b member)
      _ = side := List.map_id' side
  rw [shape, List.map_append, List.map_cons, same _ before, same _ after]
  simp [Located.replace, own]

theorem beginRetire_ok {id : DeploymentId} {after : Environment}
    (once : env.bundles.countP (fun b => b.deploymentId = id) = 1) :
    (∃ outcome, beginRetire env id = (.ok outcome, after)) ↔
      MayGo env [id] id ∧ after = retired env [id] := by
  have asked : checkRetireLinks env id = .ok () ↔ MayGo env [id] id := by
    rw [checkRetireLinks, checkRetireSetLinks_ok]
    simp
  rw [← asked]
  cases checked : checkRetireLinks env id with
  | error e => simp [beginRetire, checked]
  | ok _ =>
      obtain ⟨bundleId, present, -⟩ := asked.mp checked
      rw [deploymentBundle, find?_eq_locate] at present
      cases located : locate (fun b => decide (b.deploymentId = id)) env.bundles with
      | none => simp [located] at present
      | some found =>
          simp [beginRetire, checked, deploymentIndex, located, takeSplit_eq,
            replace_archived located once, retired, @eq_comm _ after]

theorem retired_retired (env : Environment) (gone next : List DeploymentId) :
    retired (retired env gone) next = retired env (gone ++ next) := by
  have marks : ∀ b : BundleDeployment,
      (if (if b.deploymentId ∈ gone then { b with status := .archived } else b).deploymentId ∈ next
        then { (if b.deploymentId ∈ gone then { b with status := .archived } else b) with
          status := .archived }
        else if b.deploymentId ∈ gone then { b with status := .archived } else b) =
      if b.deploymentId ∈ gone ++ next then { b with status := .archived } else b := by
    intro b
    by_cases first : b.deploymentId ∈ gone <;> by_cases second : b.deploymentId ∈ next <;>
      simp [first, second]
  simp only [retired, List.map_map, Function.comp_def, marks, List.foldl_append]

theorem countP_retired (env : Environment) (gone : List DeploymentId) (id : DeploymentId) :
    (retired env gone).bundles.countP (fun b => b.deploymentId = id) =
      env.bundles.countP fun b => b.deploymentId = id := by
  rw [retired, List.countP_map]
  congr 1
  funext b
  by_cases member : b.deploymentId ∈ gone <;> simp [member]

theorem survives_retired {gone next : List DeploymentId} {bundleId : BundleId} :
    Survives (retired env gone) next bundleId ↔ Survives env (gone ++ next) bundleId := by
  constructor
  · rintro ⟨b', inside, same, outside, live⟩
    obtain ⟨b, member, rfl⟩ := List.mem_map.mp inside
    by_cases first : b.deploymentId ∈ gone
    · simp [first] at live
    · simp only [first, if_false] at same outside live
      exact ⟨b, member, same, by simp [first, outside], live⟩
  · rintro ⟨b, member, same, outside, live⟩
    obtain ⟨first, second⟩ := not_or.mp (mt List.mem_append.mpr outside)
    exact ⟨b, List.mem_map.mpr ⟨b, member, by rw [if_neg first]⟩, same, second, live⟩

theorem deploymentBundle_retired (gone : List DeploymentId) (id : DeploymentId) :
    deploymentBundle (retired env gone) id = deploymentBundle env id := by
  apply deploymentBundle_of_keys
  rw [retired, List.map_map]
  apply List.map_congr_left
  intro b _
  by_cases member : b.deploymentId ∈ gone <;> simp [member]

theorem mayGo_retired {gone next : List DeploymentId} {id : DeploymentId} :
    MayGo (retired env gone) next id ↔ MayGo env (gone ++ next) id := by
  simp only [MayGo, deploymentBundle_retired, survives_retired]
  rfl

/-- Each member asks with those before it gone. -/
def InTurn (env : Environment) (gone : List DeploymentId) : List DeploymentId → Prop
  | [] => True
  | id :: rest => MayGo env (gone ++ [id]) id ∧ InTurn env (gone ++ [id]) rest

theorem retireAll_cons {id : DeploymentId} {rest : List DeploymentId} {after : Environment} :
    retireAll env (id :: rest) = .ok after ↔
      ∃ next, (∃ outcome, beginRetire env id = (.ok outcome, next)) ∧
        retireAll next rest = .ok after := by
  obtain ⟨result, next, begun⟩ : ∃ result next, beginRetire env id = (result, next) := ⟨_, _, rfl⟩
  cases result with
  | error e => simp [retireAll, begun]
  | ok outcome => simp [retireAll, begun]

theorem retireAll_ok {order : List DeploymentId} {after : Environment}
    (once : ∀ id ∈ order, env.bundles.countP (fun b => b.deploymentId = id) = 1)
    (gone : List DeploymentId) :
    retireAll (retired env gone) order = .ok after ↔
      InTurn env gone order ∧ after = retired env (gone ++ order) := by
  induction order generalizing gone with
  | nil => simp [retireAll, InTurn, @eq_comm _ after]
  | cons id rest ih =>
      obtain ⟨single, others⟩ := List.forall_mem_cons.mp once
      have begun : ∀ next, (∃ outcome, beginRetire (retired env gone) id = (.ok outcome, next)) ↔
          MayGo env (gone ++ [id]) id ∧ next = retired env (gone ++ [id]) := by
        intro next
        rw [← mayGo_retired, ← retired_retired]
        exact beginRetire_ok ((countP_retired env gone id).trans single)
      have regroup : gone ++ [id] ++ rest = gone ++ id :: rest := by simp
      calc retireAll (retired env gone) (id :: rest) = .ok after
          ↔ MayGo env (gone ++ [id]) id ∧
              retireAll (retired env (gone ++ [id])) rest = .ok after := by
            rw [retireAll_cons]
            simp only [begun, and_assoc, exists_and_left, exists_eq_left]
        _ ↔ InTurn env gone (id :: rest) ∧ after = retired env (gone ++ id :: rest) := by
            rw [ih others, regroup, InTurn, and_assoc]

theorem deploymentBundle_of_mem {b : BundleDeployment} (member : b ∈ env.bundles)
    (once : env.bundles.countP (fun other => other.deploymentId = b.deploymentId) = 1) :
    deploymentBundle env b.deploymentId = some b.bundleId := by
  rw [List.countP_eq_length_filter, List.length_eq_one_iff] at once
  obtain ⟨only, alone⟩ := once
  have same : b = only := by
    rw [← List.mem_singleton, ← alone]
    exact List.mem_filter.mpr ⟨member, by simp⟩
  rw [deploymentBundle, ← List.head?_filter, alone, same]
  rfl

/-- Nobody in a set vouches for another: a sibling still live at one's turn asks
later, with fewer left. -/
theorem inTurn_iff {order : List DeploymentId}
    (once : ∀ id ∈ order, env.bundles.countP (fun b => b.deploymentId = id) = 1)
    (gone : List DeploymentId) :
    InTurn env gone order ↔ ∀ id ∈ order, MayGo env (gone ++ order) id := by
  induction order generalizing gone with
  | nil => simp [InTurn]
  | cons id rest ih =>
      obtain ⟨-, others⟩ := List.forall_mem_cons.mp once
      have regroup : gone ++ [id] ++ rest = gone ++ id :: rest := by simp
      rw [InTurn, ih others, regroup, List.forall_mem_cons]
      constructor
      · rintro ⟨⟨bundleId, present, fine⟩, later⟩
        refine ⟨⟨bundleId, present, ?_⟩, later⟩
        rcases fine with ⟨b, inside, same, outside, live⟩ | unlinked
        · by_cases sibling : b.deploymentId ∈ rest
          · obtain ⟨bundleId', present', fine⟩ := later _ sibling
            rw [deploymentBundle_of_mem inside (others _ sibling), same] at present'
            cases present'
            exact fine
          · left
            refine ⟨b, inside, same, ?_, live⟩
            rw [← regroup]
            exact fun among => (List.mem_append.mp among).elim outside sibling
        · exact .inr unlinked
      · rintro ⟨own, later⟩
        refine ⟨own.anti ?_, later⟩
        rw [← regroup]
        exact List.subset_append_left _ _

theorem retired_perm {first second : List DeploymentId} (same : first.Perm second) :
    retired env first = retired env second := by
  have splits : ∀ start : List TrafficSplit,
      first.foldl (fun splits id => splits.eraseP fun s => s.deploymentId = id) start =
        second.foldl (fun splits id => splits.eraseP fun s => s.deploymentId = id) start := by
    apply same.foldl_eq'
    intro x _ y _ splits
    by_cases level : x = y
    · rw [level]
    · apply List.eraseP_comm
      intro split _
      by_cases first : split.deploymentId = x
      · exact .inr (by simpa [first] using level)
      · exact .inl (by simpa using first)
  simp only [retired, same.mem_iff, splits]

/-- For members listed once each, the set check passes exactly if the members
can begin their retires in every order, and every order ends alike. -/
theorem retire_set_links (env : Environment) (members : List DeploymentId)
    (once : ∀ id ∈ members, env.bundles.countP (fun b => b.deploymentId = id) = 1) :
    (checkRetireSetLinks env members = .ok () ↔
        ∀ order, order.Perm members → ∃ after, retireAll env order = .ok after) ∧
      ∀ order, order.Perm members → ∀ after, retireAll env order = .ok after →
        checkRetireSetLinks env members = .ok () ∧ after = retired env members := by
  have start : retired env [] = env := by simp [retired]
  have turns : ∀ order, order.Perm members → ∀ after, retireAll env order = .ok after ↔
      checkRetireSetLinks env members = .ok () ∧ after = retired env members := by
    intro order same after
    have each : ∀ id ∈ order, env.bundles.countP (fun b => b.deploymentId = id) = 1 :=
      fun id member => once id (same.mem_iff.mp member)
    have asked : (∀ id ∈ order, MayGo env order id) ↔ ∀ id ∈ members, MayGo env members id := by
      constructor
      · exact fun may id member => (may id (same.mem_iff.mpr member)).anti same.symm.subset
      · exact fun may id member => (may id (same.mem_iff.mp member)).anti same.subset
    calc retireAll env order = .ok after
        ↔ InTurn env [] order ∧ after = retired env order := by
          simpa [start] using retireAll_ok each []
      _ ↔ (∀ id ∈ order, MayGo env order id) ∧ after = retired env order := by
          rw [inTurn_iff each, List.nil_append]
      _ ↔ checkRetireSetLinks env members = .ok () ∧ after = retired env members := by
          rw [asked, checkRetireSetLinks_ok, retired_perm same]
  constructor
  · constructor
    · exact fun passed order same => ⟨_, (turns order same _).mpr ⟨passed, rfl⟩⟩
    · intro every
      obtain ⟨after, ran⟩ := every members (.refl _)
      exact ((turns members (.refl _) after).mp ran).1
  · exact fun order same after => (turns order same after).mp

def legalBot : MessagingEndpoint where
  schema := ⟨SchemaVersion.messagingEndpointV1⟩
  envId := ⟨"local"⟩
  endpointId := ⟨1⟩
  providerId := "legal-bot"
  providerType := "slack"
  displayName := "legal-bot"
  secretRefs := []
  webhookSecretRef := none
  linkedBundles := [⟨"demo"⟩]
  welcomeFlow := none
  generation := 0
  createdAt := 0
  updatedAt := 0
  updatedBy := "op"

/-- An endpoint linked to a bundle that several customers bought. -/
def linkedDemo (sales : List (String × Ulid)) : Environment :=
  { (engine firstSplitJson noExternals).run localFresh
      (sales.map fun (customer, id) =>
        .addBundle { demoBundle with customerId := ⟨customer⟩ } ⟨id⟩ 0 "policy.json") with
    messagingEndpoints := [legalBot] }

/-- Two of three deployments of a linked bundle. -/
theorem retire_set_links_of_three :
    ∃ after, after = retired (linkedDemo [("a", 1), ("b", 2), ("c", 3)]) [⟨1⟩, ⟨2⟩] ∧
      retireAll (linkedDemo [("a", 1), ("b", 2), ("c", 3)]) [⟨2⟩, ⟨1⟩] = .ok after := by
  have applied := retire_set_links (linkedDemo [("a", 1), ("b", 2), ("c", 3)]) [⟨1⟩, ⟨2⟩]
    (by decide)
  have turned : List.Perm [⟨2⟩, ⟨1⟩] ([⟨1⟩, ⟨2⟩] : List DeploymentId) := .swap _ _ _
  obtain ⟨after, ran⟩ := applied.1.mp (by decide) [⟨2⟩, ⟨1⟩] turned
  exact ⟨after, (applied.2 _ turned after ran).2, ran⟩

/-- Ids listed twice: the entry that stays live vouches for the next member. -/
theorem retire_set_links_listed_twice :
    (linkedDemo [("a", 1), ("b", 2), ("c", 1), ("d", 2)]).validate noExternals = .ok () ∧
      (∃ e, checkRetireSetLinks (linkedDemo [("a", 1), ("b", 2), ("c", 1), ("d", 2)])
        [⟨1⟩, ⟨2⟩] = .error e) ∧
      ∀ order, order.Perm [⟨1⟩, ⟨2⟩] →
        ∃ after, retireAll (linkedDemo [("a", 1), ("b", 2), ("c", 1), ("d", 2)]) order =
          .ok after := by
  refine ⟨by decide, ⟨_, rfl⟩, ?_⟩
  intro order same
  rcases List.perm_pair.mp same with rfl | rfl
  · exact ⟨_, rfl⟩
  · exact ⟨_, rfl⟩

end GreenticDeployer.Engine
