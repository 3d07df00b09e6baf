import GreenticDeployer.Sor.Steps

/-!
# The phases of a reconcile

What each phase establishes and the later ones leave standing: the units'
objects, the store's route documents, the deletions, and last the objects of
retired units.
-/

set_option maxHeartbeats 200000

namespace GreenticDeployer.Sor

open Spec Lib
open Local (Turn)

variable {formats : Formats} {settings : Settings} {params : K8sParams}

section Store

variable {inv : World → Prop} {world : World} {envId : EnvId} {rel : String}

theorem getEnvSecret_carefully :
    Carefully inv (fun value next => next = world ∧ value = world.secrets (devStoreKey envId rel))
      (getEnvSecret formats envId rel) world := by
  refine Program.Careful.checks fun _ _ => ?_
  exact carefully_loads _ (fun _ => rfl) fun _ => rfl

theorem putEnvSecret_carefully {value : String} {post : Unit → World → Prop}
    (kept : inv world → inv (world.stored (devStoreKey envId rel) (some value)))
    (holds : inv world → post () (world.stored (devStoreKey envId rel) (some value))) :
    Carefully inv post (putEnvSecret formats envId rel value) world := by
  refine Program.Careful.checks fun _ _ => ?_
  exact carefully_changes _ (fun turn => change_moves turn _)
    (fun _ replied => change_replied replied) kept holds

theorem deleteEnvSecret_carefully {post : Unit → World → Prop}
    (kept : inv world → inv (world.stored (devStoreKey envId rel) none))
    (holds : inv world → post () (world.stored (devStoreKey envId rel) none)) :
    Carefully inv post (deleteEnvSecret formats envId rel) world := by
  refine Program.Careful.checks fun _ _ => ?_
  exact carefully_changes _ (fun turn => change_moves turn _)
    (fun _ replied => change_replied replied) kept holds

theorem readRequired_carefully {unit : SorUnit} :
    Carefully inv (fun _ next => next = world ∧ True) (readRequired formats envId unit rel) world := by
  refine Program.Careful.reads _ getEnvSecret_carefully fun value _ => ?_
  cases value with
  | none => exact Program.Careful.throw _
  | some text =>
      by_cases empty : text = ""
      · simp only [empty, if_true]
        exact Program.Careful.throw _
      · simp only [empty, if_false]
        exact Program.Careful.pure fun _ => ⟨rfl, trivial⟩

theorem readOptional_carefully {unit : SorUnit} {optional : Option String} :
    Carefully inv (fun _ next => next = world ∧ True)
      (readOptional formats envId unit optional) world := by
  cases optional with
  | none => exact Program.Careful.pure fun _ => ⟨rfl, trivial⟩
  | some rel =>
      refine Program.Careful.reads _ readRequired_carefully fun value _ => ?_
      exact Program.Careful.pure fun _ => ⟨rfl, trivial⟩

theorem resolveUnit_carefully {unit : SorUnit} :
    Carefully inv (fun render next => next = world ∧ render.unit = unit)
      (resolveUnit formats envId unit) world := by
  refine Program.Careful.reads _ readRequired_carefully fun answers _ => ?_
  refine Program.Careful.checks fun _ _ => ?_
  refine Program.Careful.reads _ readRequired_carefully fun postgresUrl _ => ?_
  refine Program.Careful.reads _ readOptional_carefully fun postgresCa _ => ?_
  refine Program.Careful.reads _ readRequired_carefully fun sharedSecret _ => ?_
  exact Program.Careful.pure fun _ => ⟨rfl, rfl⟩

theorem resolveSorInputs_carefully (units : List SorUnit) :
    Carefully inv (fun renders next => next = world ∧ renders.map SorUnitRender.unit = units)
      (resolveSorInputs formats envId units) world := by
  induction units with
  | nil => exact Program.Careful.pure fun _ => ⟨rfl, rfl⟩
  | cons unit rest ih =>
      refine Program.Careful.reads _ resolveUnit_carefully fun render first => ?_
      refine Program.Careful.reads _ ih fun renders others => ?_
      exact Program.Careful.pure fun _ => ⟨rfl, by rw [List.map_cons, first, others]⟩

end Store

/-- Every one of the objects is on the cluster. -/
def Standing (wanted : List Manifest) (world : World) : Prop :=
  ∀ manifest ∈ wanted, world.objects manifest.ref = some manifest.object

def unitManifests (params : K8sParams) (units : List SorUnit) : List Manifest :=
  units.flatMap (renderSorManifests params)

/-- Between two phases: the units' objects stand, and the store is as given. -/
structure Phase (wanted : List Manifest) (store : (SecretUri → Option String) → Prop)
    (world : World) : Prop where
  standing : Standing wanted world
  store : store world.secrets

section Cluster

variable {envId : EnvId} {before world : World} {ledger : List AppliedSorUnit}
variable {units : List SorUnit} {store : (SecretUri → Option String) → Prop}

theorem Standing.applied_spares {manifest : Manifest}
    (standing : Standing (unitManifests params units) world) (spares : SparesSor manifest)
    (takes : world.takes manifest = true) :
    Standing (unitManifests params units) (world.applied manifest) := by
  intro wanted member
  have found := standing wanted member
  by_cases same : wanted.ref = manifest.ref
  · obtain ⟨unit, -, rendered⟩ := List.mem_flatMap.mp member
    have place := (renderSorManifests_refs params unit wanted.ref).mp ⟨wanted, rendered, rfl⟩
    have typed := congrArg ClusterObject.secretType (renderSorManifests_object rendered)
    have alike : wanted.object.secretType = manifest.object.secretType := by
      rw [same] at found
      simpa [World.takes, found] using takes
    rw [same] at place typed
    exact absurd (alike.symm.trans typed) (spares.2 unit.unitId params.namespaceName place)
  · rwa [World.applied_of_ne world same]

theorem Standing.deleted {wanted : List Manifest} {ref : ObjectRef} (standing : Standing wanted world)
    (apart : ∀ manifest ∈ wanted, manifest.ref ≠ ref) : Standing wanted (world.deleted ref) := by
  intro manifest member
  rw [World.deleted_of_ne world (apart manifest member)]
  exact standing manifest member

theorem Phase.nothing (params : K8sParams) (world : World) :
    Phase (unitManifests params []) (fun _ => True) world := ⟨nofun, trivial⟩

theorem applyEnvironment_carefully {manifests : List Manifest}
    (spare : ∀ manifest ∈ manifests, SparesSor manifest)
    (phase : Phase (unitManifests params units) store world) :
    Carefully (Underway envId before ledger)
      (fun _ next => Phase (unitManifests params units) store next) (manifests.forM apply) world := by
  refine Program.Careful.forM _ manifests phase fun manifest member world phase => ?_
  have spares := spare manifest member
  refine apply_carefully (fun _ underway => underway.applied ?_) fun takes _ =>
    ⟨phase.standing.applied_spares spares takes, phase.store⟩
  intro unitId label
  rw [spares.1] at label
  cases label

theorem deleteAll_carefully {wanted : List Manifest} {refs : List ObjectRef}
    (apart : ∀ ref ∈ refs, ∀ manifest ∈ wanted, manifest.ref ≠ ref) (phase : Phase wanted store world) :
    Carefully (Underway envId before ledger)
      (fun _ next => Phase wanted store next ∧ (∀ ref ∈ refs, next.objects ref = none) ∧
        ∀ ref, world.objects ref = none → next.objects ref = none) (refs.forM delete) world := by
  refine Program.Careful.forEach (fun world => Phase wanted store world)
    (fun ref world => world.objects ref = none) refs phase fun ref member world phase => ?_
  refine delete_carefully (fun underway => underway.deleted ref) fun _ =>
    ⟨⟨phase.standing.deleted (apart ref member), phase.store⟩, ?_, ?_⟩
  · exact world.deleted_self ref
  · intro other gone
    by_cases same : other = ref
    · rw [same, World.deleted_self]
    · rwa [World.deleted_of_ne world same]

theorem Standing.stored {wanted : List Manifest} (standing : Standing wanted world) (uri : SecretUri)
    (value : Option String) : Standing wanted (world.stored uri value) := standing

theorem unitManifests_apart {ref : ObjectRef} (other : ref.name.toList[4]? ≠ some 's') :
    ∀ manifest ∈ unitManifests params units, manifest.ref ≠ ref := by
  intro manifest member same
  obtain ⟨unit, -, rendered⟩ := List.mem_flatMap.mp member
  have place := (renderSorManifests_refs params unit manifest.ref).mp ⟨manifest, rendered, rfl⟩
  rw [same] at place
  exact not_mem_sorObjectRefs other unit.unitId params.namespaceName place

theorem Phase.deleted {ref : ObjectRef} (phase : Phase (unitManifests params units) store world)
    (other : ref.name.toList[4]? ≠ some 's') :
    Phase (unitManifests params units) store (world.deleted ref) :=
  ⟨phase.standing.deleted (unitManifests_apart other), phase.store⟩

theorem pruneDevSecrets_carefully (pruned : K8sParams)
    (phase : Phase (unitManifests params units) store world) :
    Carefully (Underway envId before ledger)
      (fun _ next => Phase (unitManifests params units) store next) (pruneDevSecrets pruned) world := by
  have other := reservedObjectNames_other devSecretsSecretName (by decide)
  unfold pruneDevSecrets
  split
  · exact delete_carefully (fun underway => underway.deleted _) fun _ => phase.deleted other
  · exact Program.Careful.pure fun _ => phase

theorem removeUnanswered_carefully (pruned : K8sParams)
    (phase : Phase (unitManifests params units) store world) :
    Carefully (Underway envId before ledger)
      (fun _ next => Phase (unitManifests params units) store next)
      (removeUnanswered pruned) world := by
  have other := reservedObjectNames_other routerName (by decide)
  have moves : ∀ turn, (access turn world (.deleteIfLabeled (renderIngress pruned).ref
      ingressComponent)).2 = world ∨ (access turn world (.deleteIfLabeled
        (renderIngress pruned).ref ingressComponent)).2 =
          world.deleted (renderIngress pruned).ref := by
    intro turn
    simp only [access]
    split
    · exact change_moves turn _
    · exact .inl rfl
  unfold removeUnanswered
  split
  · refine Program.Careful.ask (fun _ => trivial) ?_ ?_
    · intro turn underway
      rcases moves turn with same | gone
      · rwa [same]
      · rw [gone]
        exact underway.deleted _
    · intro turn value _ _
      rcases moves turn with same | gone
      · rwa [same]
      · rw [gone]
        exact phase.deleted other
  · exact Program.Careful.pure fun _ => phase

theorem pruneAbsent_carefully (pruned : K8sParams)
    (phase : Phase (unitManifests params units) store world) :
    Carefully (Underway envId before ledger)
      (fun _ next => Phase (unitManifests params units) store next)
      (pruneAbsent settings pruned) world := by
  refine Program.Careful.andThen _ (pruneDevSecrets_carefully pruned phase) fun _ next phase => ?_
  refine Program.Careful.andThen (fun _ next => Phase (unitManifests params units) store next) ?_
    fun _ next phase => removeUnanswered_carefully pruned phase
  refine Program.Careful.forM _ _ phase fun revision _ world phase => ?_
  refine Program.Careful.forM _ _ phase fun manifest member world phase => ?_
  have other := (renderWorkerManifests_spare member).2
  exact delete_carefully (fun underway => underway.deleted _) fun _ => phase.deleted other

def Recorded (namespaceName : String) (units : List SorUnit) (ledger : List AppliedSorUnit) : Prop :=
  ∀ unit ∈ units, ∃ entry ∈ ledger,
    entry.unitId = unit.unitId ∧ entry.sor = unit.sor ∧ entry.namespaceName = namespaceName

theorem unitManifests_place {manifest : Manifest} (member : manifest ∈ unitManifests params units) :
    ∃ unit ∈ units, manifest.ref ∈ sorObjectRefs unit.unitId params.namespaceName ∧
      manifest.object = ⟨"sor", some unit.unitId, sorSecretType manifest.ref⟩ := by
  obtain ⟨unit, declared, rendered⟩ := List.mem_flatMap.mp member
  have place := (renderSorManifests_refs params unit manifest.ref).mp ⟨manifest, rendered, rfl⟩
  exact ⟨unit, declared, place, renderSorManifests_object rendered⟩

theorem unitManifests_object {manifest other : Manifest}
    (member : manifest ∈ unitManifests params units) (also : other ∈ unitManifests params units)
    (same : manifest.ref = other.ref) : manifest.object = other.object := by
  obtain ⟨unit, -, place, whole⟩ := unitManifests_place member
  obtain ⟨second, -, there, alike⟩ := unitManifests_place also
  rw [same] at place whole
  rw [whole, alike, (sorObjectRefs_disjoint place there).1]

theorem mem_sorObjects {renders : List SorUnitRender} {manifest : Manifest}
    (member : manifest ∈ sorObjects params renders) :
    manifest ∈ renderSorNetworkPolicies params ∨
      manifest ∈ unitManifests params (renders.map SorUnitRender.unit) := by
  rcases List.mem_append.mp member with policy | own
  · split at policy
    · cases policy
    · exact .inl policy
  · rw [unitManifests, List.flatMap_map]
    exact .inr own

theorem applySorObjects_carefully {renders : List SorUnitRender}
    (recorded : Recorded params.namespaceName (renders.map SorUnitRender.unit) ledger) :
    Carefully (Underway envId before ledger)
      (fun _ next => Standing (unitManifests params (renders.map SorUnitRender.unit)) next)
      ((sorObjects params renders).forM apply) world := by
  let units := renders.map SorUnitRender.unit
  refine (Program.Careful.forEach (fun _ => True)
    (fun manifest world => manifest ∈ unitManifests params units →
      world.objects manifest.ref = some manifest.object)
    (sorObjects params renders) trivial ?_).mono ?_
  · intro manifest member world _
    have sort := mem_sorObjects member
    refine apply_carefully (fun _ underway => underway.applied ?_) fun _ _ =>
      ⟨trivial, fun _ => world.applied_self manifest, ?_⟩
    · intro unitId label
      rcases sort with policy | own
      · rw [(renderSorNetworkPolicies_spare policy).1] at label
        cases label
      · obtain ⟨unit, declared, place, whole⟩ := unitManifests_place own
        rw [whole] at label
        cases label
        obtain ⟨entry, listed, sameId, -, there⟩ := recorded unit declared
        exact ⟨entry, listed, sameId, by rwa [there]⟩
    · intro other standing wanted
      have found := standing wanted
      by_cases same : other.ref = manifest.ref
      · rcases sort with policy | own
        · obtain ⟨name, listed, rfl⟩ := List.mem_map.mp policy
          have named : (networkPolicy params name).ref.name.toList[4]? ≠ some 's' :=
            sorPolicyNames_other name listed
          exact absurd same (unitManifests_apart named other wanted)
        · rw [same, World.applied_self, unitManifests_object wanted own same]
      · rwa [World.applied_of_ne world same]
  · intro _ next _ ended manifest member
    have listed : manifest ∈ sorObjects params renders := by
      rw [unitManifests, List.flatMap_map] at member
      exact List.mem_append_right _ member
    exact ended.2.1 manifest listed member

end Cluster

theorem awaitAll_carefully {α : Type} {inv : World → Prop} (held : World → Prop) {world : World}
    (items : List α) (deployment : α → ObjectRef) (start : held world) :
    Carefully inv (fun _ next => held next)
      (items.forM fun item => attempt (.waitForRollout (deployment item)) id) world := by
  refine Program.Careful.forM held items start fun item _ world kept => ?_
  refine (carefully_reads (fun _ => True) (fun _ => rfl) fun _ _ _ => trivial).mono ?_
  intro _ next _ same
  rwa [same.1]

/-- What the fourth phase leaves of the route documents and the stale inputs. -/
structure Refreshed (envId : EnvId) (units : List SorUnit) (retiredSors staleInputRefs : List String)
    (secrets : SecretUri → Option String) : Prop where
  declared : ∀ unit ∈ units, secrets (devStoreKey envId (routeRelPath unit.sor)) ≠ none
  retired : ∀ sor ∈ retiredSors, secrets (devStoreKey envId (routeRelPath sor)) = none
  stale : ∀ rel ∈ staleInputRefs, secrets (devStoreKey envId rel) = none

section Refresh

variable {envId : EnvId} {before world : World} {ledger : List AppliedSorUnit}
variable {wanted : List Manifest} {units : List SorUnit} {retiredSors staleInputRefs : List String}

theorem Underway.put_route (underway : Underway envId before ledger world) {sor : String}
    (recorded : ∃ entry ∈ ledger, entry.sor = sor) (value : String) :
    Underway envId before ledger (world.stored (devStoreKey envId (routeRelPath sor)) (some value)) := by
  refine underway.stored (fun other same _ => ?_) fun plain => absurd rfl (plain sor)
  rwa [← routeRelPath_injective same]

theorem Underway.delete_route (underway : Underway envId before ledger world) (sor : String) :
    Underway envId before ledger (world.stored (devStoreKey envId (routeRelPath sor)) none) :=
  underway.stored (fun _ _ present => absurd rfl present) fun plain => absurd rfl (plain sor)

theorem Underway.delete_stale (underway : Underway envId before ledger world) {rel : String}
    (deletable : Deletable before.units before.ledger rel) :
    Underway envId before ledger (world.stored (devStoreKey envId rel) none) :=
  underway.stored (fun _ _ present => absurd rfl present) fun _ => deletable

theorem publishRoute_carefully (own : settings.env.environmentId = envId) {route : RouteDocument}
    (recorded : ∃ entry ∈ ledger, entry.sor = route.sor) (standing : Standing wanted world) :
    Carefully (Underway envId before ledger)
      (fun _ next => Standing wanted next ∧
        next.secrets (devStoreKey envId (routeRelPath route.sor)) ≠ none ∧
        ∀ other : RouteDocument, world.secrets (devStoreKey envId (routeRelPath other.sor)) ≠ none →
          next.secrets (devStoreKey envId (routeRelPath other.sor)) ≠ none)
      (publishRoute formats settings route) world := by
  unfold publishRoute
  rw [own]
  refine Program.Careful.reads _ getEnvSecret_carefully fun current read => ?_
  by_cases stale : current ≠ some route.value
  · rw [if_pos stale]
    have present : (world.stored (devStoreKey envId (routeRelPath route.sor))
        (some route.value)).secrets (devStoreKey envId (routeRelPath route.sor)) ≠ none := by
      rw [World.stored_self]
      exact Option.some_ne_none route.value
    refine putEnvSecret_carefully (fun underway => underway.put_route recorded route.value)
      fun _ => ⟨standing.stored _ _, present, fun other known => ?_⟩
    by_cases same : devStoreKey envId (routeRelPath other.sor) =
        devStoreKey envId (routeRelPath route.sor)
    · rw [same]
      exact present
    · rw [World.stored_of_ne world same]
      exact known
  · rw [if_neg stale]
    have stored : world.secrets (devStoreKey envId (routeRelPath route.sor)) = some route.value :=
      read.symm.trans (Classical.not_not.mp stale)
    refine Program.Careful.pure fun _ => ⟨standing, ?_, fun _ known => known⟩
    rw [stored]
    exact Option.some_ne_none route.value

theorem deleteSecrets_carefully (kept : World → Prop) (path : String → String) (items : List String)
    (start : kept world)
    (survives : ∀ item ∈ items, ∀ world, kept world →
      kept (world.stored (devStoreKey envId (path item)) none))
    (permitted : ∀ item ∈ items, ∀ world, Underway envId before ledger world →
      Underway envId before ledger (world.stored (devStoreKey envId (path item)) none)) :
    Carefully (Underway envId before ledger)
      (fun _ next => kept next ∧ ∀ item ∈ items, next.secrets (devStoreKey envId (path item)) = none)
      (items.forM fun item => deleteEnvSecret formats envId (path item)) world := by
  refine (Program.Careful.forEach kept
    (fun item world => world.secrets (devStoreKey envId (path item)) = none) items start
    fun item member world held => ?_).mono fun _ _ _ ended => ⟨ended.1, ended.2.1⟩
  exact deleteEnvSecret_carefully (permitted item member world) fun _ =>
    ⟨survives item member world held, world.stored_self _ _, fun _ gone => world.stored_none gone⟩

theorem retire_carefully (own : settings.env.environmentId = envId)
    (undeclared : ∀ sor ∈ retiredSors, ∀ unit ∈ units, unit.sor ≠ sor)
    (deletable : ∀ rel ∈ staleInputRefs, Deletable before.units before.ledger rel)
    (standing : Standing wanted world)
    (declared : ∀ unit ∈ units, world.secrets (devStoreKey envId (routeRelPath unit.sor)) ≠ none) :
    Carefully (Underway envId before ledger)
      (fun _ next => Phase wanted (Refreshed envId units retiredSors staleInputRefs) next)
      (retire formats settings retiredSors staleInputRefs) world := by
  let published : World → Prop := fun world => Standing wanted world ∧ ∀ unit ∈ units,
    world.secrets (devStoreKey envId (routeRelPath unit.sor)) ≠ none
  have spared : ∀ rel world, (∀ unit ∈ units, routeRelPath unit.sor ≠ rel) → published world →
      published (world.stored (devStoreKey envId rel) none) := by
    intro rel world apart held
    refine ⟨held.1, fun unit known => ?_⟩
    rw [World.stored_of_ne world fun keys => apart unit known (devStoreKey_injective keys)]
    exact held.2 unit known
  unfold retire
  rw [own]
  refine Program.Careful.andThen _ (deleteSecrets_carefully published routeRelPath
    retiredSors ⟨standing, declared⟩ ?_ fun sor _ world underway => underway.delete_route sor)
    fun _ next first => ?_
  · intro sor member world held
    exact spared _ world (fun unit known same =>
      undeclared sor member unit known (routeRelPath_injective same)) held
  refine (deleteSecrets_carefully (fun world => published world ∧
    ∀ sor ∈ retiredSors, world.secrets (devStoreKey envId (routeRelPath sor)) = none) id
    staleInputRefs first ?_ fun rel member world underway =>
      underway.delete_stale (deletable rel member)).mono ?_
  · intro rel member world held
    obtain ⟨entry, -, -, owned, -⟩ := deletable rel member
    exact ⟨spared _ world (fun unit _ same => notRoute_of_owned owned unit.sor same.symm) held.1,
      fun sor known => world.stored_none (held.2 sor known)⟩
  · intro _ last _ ended
    exact ⟨ended.1.1.1, ended.1.1.2, ended.1.2, ended.2⟩

theorem publish_carefully (own : settings.env.environmentId = envId) {routes : List RouteDocument}
    (declared : routes.map RouteDocument.sor = units.map SorUnit.sor)
    (recorded : Recorded params.namespaceName units ledger)
    (undeclared : ∀ sor ∈ retiredSors, ∀ unit ∈ units, unit.sor ≠ sor)
    (deletable : ∀ rel ∈ staleInputRefs, Deletable before.units before.ledger rel)
    (standing : Standing wanted world) :
    Carefully (Underway envId before ledger)
      (fun _ next => Phase wanted (Refreshed envId units retiredSors staleInputRefs) next)
      (publish formats settings routes retiredSors staleInputRefs) world := by
  unfold publish
  refine Program.Careful.andThen (fun _ next => Standing wanted next ∧
    ∀ route ∈ routes, next.secrets (devStoreKey envId (routeRelPath route.sor)) ≠ none) ?_
    fun _ next first => ?_
  · refine (Program.Careful.forEach (Standing wanted) (fun (route : RouteDocument) world =>
      world.secrets (devStoreKey envId (routeRelPath route.sor)) ≠ none) routes standing
      fun route member world standing => ?_).mono fun _ _ _ ended => ⟨ended.1, ended.2.1⟩
    have named : route.sor ∈ units.map SorUnit.sor := declared ▸ List.mem_map_of_mem member
    obtain ⟨unit, known, same⟩ := List.mem_map.mp named
    obtain ⟨entry, listed, -, alike, -⟩ := recorded unit known
    exact publishRoute_carefully own ⟨entry, listed, alike.trans same⟩ standing
  · have published : ∀ unit ∈ units,
        next.secrets (devStoreKey envId (routeRelPath unit.sor)) ≠ none := by
      intro unit known
      have named : unit.sor ∈ routes.map RouteDocument.sor := declared ▸ List.mem_map_of_mem known
      obtain ⟨route, member, same⟩ := List.mem_map.mp named
      exact same ▸ first.2 route member
    refine Program.Careful.andThen _ (retire_carefully own undeclared deletable first.1 published)
      fun _ next done => ?_
    refine (carefully_reads (fun _ => True) (fun _ => rfl) fun _ _ _ => trivial).mono ?_
    intro _ last _ same
    rwa [same.1]

/-- The fourth phase. On a Vault environment nothing is declared. -/
theorem refreshStore_carefully (own : settings.env.environmentId = envId) {sor : PreparedSor}
    (resolved : sor.units.map SorUnitRender.unit = units)
    (onVault : params.secretsBackend = .vault → units = [])
    (recorded : Recorded params.namespaceName units ledger)
    (undeclared : ∀ s ∈ sor.retiredSors, ∀ unit ∈ units, unit.sor ≠ s)
    (deletable : ∀ rel ∈ sor.staleInputRefs, Deletable before.units before.ledger rel)
    (standing : Standing wanted world) :
    Carefully (Underway envId before ledger)
      (fun _ next => Phase wanted (Refreshed envId units sor.retiredSors sor.staleInputRefs) next)
      (refreshStore formats settings params sor) world := by
  unfold refreshStore
  split
  · next vault =>
      refine retire_carefully own undeclared deletable standing fun unit known => ?_
      rw [onVault vault] at known
      cases known
  · refine publish_carefully own ?_ recorded undeclared deletable standing
    rw [← resolved, List.map_map, List.map_map]
    rfl

end Refresh

end GreenticDeployer.Sor
