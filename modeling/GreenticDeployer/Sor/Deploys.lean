import GreenticDeployer.Sor.Phases

/-!
# A whole deploy

The ledger is widened before the cluster changes and narrowed after: wherever a
deploy stops the ledger covers the cluster, and where it succeeds nothing is left
but what is declared.
-/

set_option maxHeartbeats 200000

namespace GreenticDeployer.Sor

open Spec Lib

variable {formats : Formats} {settings : Settings} {params : K8sParams} {envId : EnvId}
variable {before world : World} {ledger : List AppliedSorUnit} {sor : PreparedSor}

theorem Covered.widen (covered : Covered envId world) (desired : List AppliedSorUnit) :
    Covered envId { world with ledger := widen world.ledger desired } := by
  have kept : ∀ source ∈ world.ledger, ∃ entry ∈ Sor.widen world.ledger desired,
      entry.unitId = source.unitId ∧ entry.sor = source.sor ∧
        entry.namespaceName = source.namespaceName := by
    intro source member
    obtain ⟨entry, found, same, -⟩ := mem_widen (List.mem_append_left desired member)
    rw [AppliedSorUnit.sameUnit_iff, AppliedSorUnit.samePlace_iff] at same
    exact ⟨entry, found, same.2.1, same.1, same.2.2.1⟩
  constructor
  · intro ref object unitId found label
    obtain ⟨source, member, named, place⟩ := covered.objects ref object unitId found label
    obtain ⟨entry, listed, sameId, -, there⟩ := kept source member
    exact ⟨entry, listed, sameId.trans named, there ▸ place⟩
  · intro s present
    obtain ⟨source, member, named⟩ := covered.routes s present
    obtain ⟨entry, listed, -, same, -⟩ := kept source member
    exact ⟨entry, listed, same.trans named⟩

/-- What `prepare` resolved from the state it found. -/
structure PreparedFor (settings : Settings) (before : World) (params : K8sParams)
    (sor : PreparedSor) : Prop where
  parsed : paramsFromAnswers settings = .ok params
  backend : before.units = [] ∨ settings.backend = .devStore
  native : ∀ entry ∈ before.ledger, entry.cloudRun = none
  resolved : sor.units.map SorUnitRender.unit = before.units
  desired : sor.desired = before.units.map (applied params.namespaceName)
  retiredUnits : sor.retiredUnits = retiredUnits before.ledger sor.desired
  retiredSors : sor.retiredSors = retiredSors before.units before.ledger
  stale : sor.staleInputRefs = (staleInputRefs before.units before.ledger).1

/-- A ref that a declared unit reads or an entry records. -/
def IsInput (world : World) (rel : String) : Prop :=
  (∃ unit ∈ world.units, rel ∈ unit.inputRefs) ∨ ∃ entry ∈ world.ledger, rel ∈ entry.inputRefs

/-- Nothing is left but what is declared, and the ledger says just that. Of the
inputs on record before, those a run may delete are gone. -/
structure Settled (envId : EnvId) (namespaceName : String) (before after : World) : Prop where
  ledger : after.ledger = before.units.map (applied namespaceName)
  objects : ∀ ref unitId,
    (∃ object, after.objects ref = some object ∧ object.sorUnit = some unitId) ↔
      (∃ unit ∈ before.units, unit.unitId = unitId) ∧ ref ∈ sorObjectRefs unitId namespaceName
  routes : ∀ sor, after.secrets (devStoreKey envId (routeRelPath sor)) ≠ none ↔
    ∃ unit ∈ before.units, unit.sor = sor
  inputs : ∀ rel, Deletable before.units before.ledger rel →
    after.secrets (devStoreKey envId rel) = none

/-- Settled in the namespace the answers name. -/
def SettledBy (settings : Settings) (before after : World) : Prop :=
  ∃ params, paramsFromAnswers settings = .ok params ∧
    Settled settings.env.environmentId params.namespaceName before after

def Records (ledger : List AppliedSorUnit) (unitId rel : String) : Prop :=
  ∃ entry ∈ ledger, entry.unitId = unitId ∧ rel ∈ entry.inputRefs

theorem records_widen {desired : List AppliedSorUnit} {unitId rel : String}
    (recorded : Records ledger unitId rel) : Records (widen ledger desired) unitId rel := by
  obtain ⟨source, member, named, listed⟩ := recorded
  obtain ⟨entry, found, same, includes⟩ := mem_widen (List.mem_append_left desired member)
  rw [AppliedSorUnit.sameUnit_iff, AppliedSorUnit.samePlace_iff] at same
  exact ⟨entry, found, same.2.1.trans named, includes listed⟩

def RecordsKept (settings : Settings) (before after : World) : Prop :=
  (∀ unitId rel, Records before.ledger unitId rel → Records after.ledger unitId rel) ∨
    SettledBy settings before after

/-- Some ledger covers; it makes up no inputs and drops none too early. -/
def Sound (settings : Settings) (before world : World) : Prop :=
  ∃ ledger, Underway settings.env.environmentId before ledger world ∧
    (∀ entry ∈ ledger, ∀ rel ∈ entry.inputRefs, IsInput before rel) ∧
    RecordsKept settings before world

theorem Sound.start (covered : Covered settings.env.environmentId before) :
    Sound settings before before :=
  ⟨_, .start covered, fun entry member _ known => .inr ⟨entry, member, known⟩,
    .inl fun _ _ recorded => recorded⟩

theorem desired_inputs (namespaceName : String) :
    ∀ entry ∈ before.units.map (applied namespaceName), ∀ rel ∈ entry.inputRefs,
      IsInput before rel := by
  intro entry member rel known
  obtain ⟨unit, declared, rfl⟩ := List.mem_map.mp member
  exact .inl ⟨unit, declared, known⟩

theorem widened_inputs (namespaceName : String) :
    ∀ entry ∈ widen before.ledger (before.units.map (applied namespaceName)),
      ∀ rel ∈ entry.inputRefs, IsInput before rel := by
  intro entry member rel known
  obtain ⟨source, origin, listed⟩ := (widen_mem member).2 rel known
  rcases List.mem_append.mp origin with old | new
  · exact .inr ⟨source, old, listed⟩
  · exact desired_inputs namespaceName source new rel listed

theorem backend_fits {units : List SorUnit} {backend : SecretsBackend}
    (fits : (if units = [] then .ok () else requireDevStoreBackend backend) = .ok ()) :
    units = [] ∨ backend = .devStore := by
  split at fits
  · next empty => exact .inl empty
  · cases backend with
    | devStore => exact .inr rfl
    | vault => cases fits

theorem prepareUnits_carefully (covered : Covered settings.env.environmentId before) :
    Carefully (Sound settings before) (fun sor next => (∃ params, PreparedFor settings before params sor) ∧
      next = { before with ledger := widen before.ledger sor.desired })
      (prepareUnits formats settings before.units before.ledger) before := by
  unfold prepareUnits
  refine Program.Careful.checks fun params parsed => ?_
  refine Program.Careful.checks fun _ native => ?_
  refine Program.Careful.checks fun _ fits => ?_
  refine Program.Careful.checks fun _ _ => ?_
  refine Program.Careful.reads _ (resolveSorInputs_carefully before.units) fun renders resolved => ?_
  refine Program.Careful.andThen (fun _ next => next = { before with
    ledger := widen before.ledger (before.units.map (applied params.namespaceName)) }) ?_ ?_
  · have start := Underway.start covered
    exact saveLedger_carefully (fun _ =>
      ⟨_, start.saved (covered.widen _), widened_inputs _, .inl fun _ _ => records_widen⟩)
      fun _ => rfl
  · intro _ next saved
    rw [saved]
    exact Program.Careful.pure fun _ => ⟨⟨params, parsed, backend_fits fits,
      refuseForeignLane_ok native, resolved, rfl, rfl, rfl, rfl⟩, rfl⟩

theorem PreparedFor.backend_fits (prepared : PreparedFor settings before params sor) :
    (before.units = [] ∨ settings.backend = .devStore) ∧
      params.secretsBackend = settings.backend := by
  have parsed := prepared.parsed
  unfold paramsFromAnswers at parsed
  split at parsed
  · cases parsed
  · cases parsed
    exact ⟨prepared.backend, rfl⟩

theorem PreparedFor.recorded (prepared : PreparedFor settings before params sor) :
    Recorded params.namespaceName before.units (widen before.ledger sor.desired) := by
  intro unit declared
  have new : applied params.namespaceName unit ∈ sor.desired := by
    rw [prepared.desired]
    exact List.mem_map_of_mem declared
  obtain ⟨entry, listed, same, -⟩ := mem_widen (List.mem_append_right before.ledger new)
  rw [AppliedSorUnit.sameUnit_iff, AppliedSorUnit.samePlace_iff] at same
  exact ⟨entry, listed, same.2.1, same.1, same.2.2.1⟩

theorem PreparedFor.retired_apart (prepared : PreparedFor settings before params sor)
    {retired : AppliedSorUnit} (member : retired ∈ sor.retiredUnits) {ref : ObjectRef}
    (place : ref ∈ sorObjectRefs retired.unitId retired.namespaceName) :
    ∀ manifest ∈ unitManifests params before.units, manifest.ref ≠ ref := by
  intro manifest wanted same
  obtain ⟨unit, declared, there, -⟩ := unitManifests_place wanted
  rw [same] at there
  have sameId := sorObjectRefs_disjoint there place
  rw [prepared.retiredUnits, mem_retiredUnits, prepared.desired] at member
  have lives : (applied params.namespaceName unit).samePlace retired = true := by
    rw [AppliedSorUnit.samePlace_iff]
    exact ⟨sameId.1, sameId.2, (prepared.native retired member.1).symm⟩
  have gone := member.2 _ (List.mem_map_of_mem declared)
  rw [lives] at gone
  cases gone

def Cleared (retired : List AppliedSorUnit) (world : World) : Prop :=
  ∀ entry ∈ retired, ∀ ref ∈ sorObjectRefs entry.unitId entry.namespaceName,
    world.objects ref = none

variable {store : (SecretUri → Option String) → Prop}

theorem pruneRetired_carefully (prepared : PreparedFor settings before params sor)
    (phase : Phase (unitManifests params before.units) store world) :
    Carefully (Underway envId before ledger)
      (fun _ next => Phase (unitManifests params before.units) store next ∧
        Cleared sor.retiredUnits next) (pruneRetired params sor) world := by
  have turns := Program.Careful.forEach
    (fun world => Phase (unitManifests params before.units) store world)
    (fun (entry : AppliedSorUnit) world => ∀ ref ∈ sorObjectRefs entry.unitId entry.namespaceName,
      world.objects ref = none) sor.retiredUnits phase
    fun retired member world phase => Program.Careful.mono
      (deleteAll_carefully (fun _ place => prepared.retired_apart member place) phase)
      fun _ _ (_ : Underway envId before ledger _) ended =>
        ⟨ended.1, ended.2.1, fun _ gone ref place => ended.2.2 ref (gone ref place)⟩
  refine Program.Careful.andThen _ turns fun _ next first => ?_
  have cleared : Cleared sor.retiredUnits next := first.2.1
  split
  · refine (deleteAll_carefully ?_ first.1).mono fun _ last _ ended =>
      ⟨ended.1, fun entry member ref place => ended.2.2 ref (cleared entry member ref place)⟩
    intro ref policy
    obtain ⟨name, listed, rfl⟩ := List.mem_map.mp policy
    exact unitManifests_apart (sorPolicyNames_other name listed)
  · exact Program.Careful.pure fun _ => ⟨first.1, cleared⟩

structure Reconciled (envId : EnvId) (before : World) (params : K8sParams) (sor : PreparedSor)
    (world : World) : Prop where
  phase : Phase (unitManifests params before.units)
    (Refreshed envId before.units sor.retiredSors sor.staleInputRefs) world
  cleared : Cleared sor.retiredUnits world

theorem keep_spare {manifests : List Manifest} (spare : ∀ manifest ∈ manifests, SparesSor manifest)
    (kept : Manifest → Bool) : ∀ manifest ∈ manifests.filter kept, SparesSor manifest :=
  fun manifest member => spare manifest (List.mem_of_mem_filter member)

theorem reconcileWithSor_carefully (own : settings.env.environmentId = envId)
    (prepared : PreparedFor settings before params sor) :
    Carefully (Underway envId before (widen before.ledger sor.desired))
      (fun _ next => Reconciled envId before params sor next)
      (reconcileWithSor formats settings sor) world := by
  have recorded := prepared.recorded
  unfold reconcileWithSor
  refine Program.Careful.checks fun _ _ => ?_
  refine Program.Careful.checks fun parsed same => ?_
  have params_eq : parsed = params := by
    rw [prepared.parsed] at same
    cases same
    rfl
  rw [params_eq]
  refine Program.Careful.andThen _ (applyEnvironment_carefully
    (keep_spare (fun _ => renderEnvironmentManifests_spare) _) (.nothing params world))
    fun _ next _ => ?_
  refine Program.Careful.andThen _ (applySorObjects_carefully (prepared.resolved ▸ recorded))
    fun _ next standing => ?_
  rw [prepared.resolved] at standing
  refine Program.Careful.andThen _ (awaitAll_carefully _ sor.units _ standing) fun _ next standing => ?_
  refine Program.Careful.andThen _ (refreshStore_carefully own prepared.resolved ?_ recorded ?_ ?_
    standing) fun _ next phase => ?_
  · intro vault
    rcases prepared.backend_fits with ⟨empty | devStore, same⟩
    · exact empty
    · rw [same, devStore] at vault
      cases vault
  · intro s retired unit declared
    rw [prepared.retiredSors] at retired
    exact (mem_retiredSors.mp retired).2 unit declared
  · intro rel stale
    rw [prepared.stale] at stale
    exact mem_staleInputRefs.mp stale
  refine Program.Careful.andThen _ (applyEnvironment_carefully
    (keep_spare (fun _ => renderEnvironment_spares) _) phase) fun _ next phase => ?_
  refine Program.Careful.andThen _ (pruneAbsent_carefully params phase) fun _ next phase => ?_
  exact (pruneRetired_carefully prepared phase).mono fun _ _ _ ended => ⟨ended.1, ended.2⟩

end GreenticDeployer.Sor
