import GreenticDeployer.Lib.Runs
import GreenticDeployer.Sor.Deploys

/-!
# The ledger covers the cluster

Any run of declaring units, staging their inputs and deploying, each deploy cut
off or failing wherever it may.
-/

set_option maxHeartbeats 200000

namespace GreenticDeployer.Sor

open Spec Lib
open Local (Turn)

variable {formats : Formats} {settings : Settings} {params : K8sParams} {envId : EnvId}
variable {before world : World} {sor : PreparedSor}

theorem PreparedFor.declared_of_entry (prepared : PreparedFor settings before params sor)
    {entry : AppliedSorUnit} (member : entry ∈ widen before.ledger sor.desired) :
    (∃ unit ∈ before.units, unit.unitId = entry.unitId ∧ params.namespaceName = entry.namespaceName) ∨
      ∃ retired ∈ sor.retiredUnits, retired.unitId = entry.unitId ∧
        retired.namespaceName = entry.namespaceName := by
  obtain ⟨⟨source, origin, same⟩, -⟩ := widen_mem member
  rw [AppliedSorUnit.sameUnit_iff, AppliedSorUnit.samePlace_iff] at same
  have lives : ∀ d ∈ sor.desired, d.unitId = entry.unitId →
      d.namespaceName = entry.namespaceName →
      ∃ unit ∈ before.units, unit.unitId = entry.unitId ∧
        params.namespaceName = entry.namespaceName := by
    intro d listed sameId there
    rw [prepared.desired] at listed
    obtain ⟨unit, declared, rfl⟩ := List.mem_map.mp listed
    exact ⟨unit, declared, sameId, there⟩
  rcases List.mem_append.mp origin with old | new
  · by_cases retired : source ∈ sor.retiredUnits
    · exact .inr ⟨source, retired, same.2.1.symm, same.2.2.1.symm⟩
    · rw [prepared.retiredUnits, mem_retiredUnits, not_and] at retired
      have stays := retired old
      push Not at stays
      obtain ⟨d, listed, place⟩ := stays
      have there := AppliedSorUnit.samePlace_iff.mp (by simpa using place)
      exact .inl (lives d listed (there.1.trans same.2.1.symm) (there.2.1.trans same.2.2.1.symm))
  · exact .inl (lives source new same.2.1.symm same.2.2.1.symm)

theorem PreparedFor.declared_of_route (prepared : PreparedFor settings before params sor)
    {entry : AppliedSorUnit} (member : entry ∈ widen before.ledger sor.desired) :
    (∃ unit ∈ before.units, unit.sor = entry.sor) ∨ entry.sor ∈ sor.retiredSors := by
  obtain ⟨⟨source, origin, same⟩, -⟩ := widen_mem member
  have named := (AppliedSorUnit.sameUnit_iff.mp same).1
  by_cases declared : ∃ unit ∈ before.units, unit.sor = entry.sor
  · exact .inl declared
  · rcases List.mem_append.mp origin with old | new
    · right
      rw [prepared.retiredSors, mem_retiredSors]
      exact ⟨⟨source, old, named.symm⟩, fun unit known same => declared ⟨unit, known, same⟩⟩
    · rw [prepared.desired] at new
      obtain ⟨unit, known, rfl⟩ := List.mem_map.mp new
      exact absurd ⟨unit, known, named.symm⟩ declared

theorem Reconciled.settled (prepared : PreparedFor settings before params sor)
    (underway : Underway envId before (widen before.ledger sor.desired) world)
    (reconciled : Reconciled envId before params sor world) :
    Settled envId params.namespaceName before { world with ledger := sor.desired } := by
  have phase := reconciled.phase
  refine ⟨prepared.desired, fun ref unitId => ⟨?_, ?_⟩, fun s => ⟨?_, ?_⟩, ?_⟩
  · rintro ⟨object, found, label⟩
    obtain ⟨entry, member, named, place⟩ :=
      underway.covered.objects ref object unitId found label
    rw [underway.ledger] at member
    rcases prepared.declared_of_entry member with ⟨unit, declared, sameId, there⟩ |
      ⟨retired, listed, sameId, there⟩
    · exact ⟨⟨unit, declared, sameId.trans named⟩, there ▸ place⟩
    · have gone := reconciled.cleared retired listed ref (by rwa [sameId, named, there])
      rw [gone] at found
      cases found
  · rintro ⟨⟨unit, declared, rfl⟩, place⟩
    obtain ⟨manifest, rendered, rfl⟩ := (renderSorManifests_refs params unit ref).mpr place
    have stands := phase.standing manifest (List.mem_flatMap.mpr ⟨unit, declared, rendered⟩)
    exact ⟨manifest.object, stands, by rw [renderSorManifests_object rendered]⟩
  · intro present
    obtain ⟨entry, member, named⟩ := underway.covered.routes s present
    rw [underway.ledger] at member
    rcases prepared.declared_of_route member with ⟨unit, declared, same⟩ | retired
    · exact ⟨unit, declared, same.trans named⟩
    · rw [named] at retired
      exact absurd (phase.store.retired s retired) present
  · rintro ⟨unit, declared, rfl⟩
    exact phase.store.declared unit declared
  · intro rel deletable
    have stale : rel ∈ sor.staleInputRefs := by
      rw [prepared.stale]
      exact mem_staleInputRefs.mpr deletable
    exact phase.store.stale rel stale

theorem Settled.covered {namespaceName : String} {after : World}
    (settled : Settled envId namespaceName before after) : Covered envId after := by
  have recorded : ∀ unit ∈ before.units, applied namespaceName unit ∈ after.ledger := by
    intro unit declared
    rw [settled.ledger]
    exact List.mem_map_of_mem declared
  constructor
  · intro ref object unitId found label
    obtain ⟨⟨unit, declared, sameId⟩, place⟩ :=
      (settled.objects ref unitId).mp ⟨object, found, label⟩
    exact ⟨_, recorded unit declared, sameId, place⟩
  · intro s present
    obtain ⟨unit, declared, same⟩ := (settled.routes s).mp present
    exact ⟨_, recorded unit declared, same⟩

theorem Underway.settled_empty (units : before.units = []) (ledger : before.ledger = [])
    (underway : Underway envId before [] world) (namespaceName : String) :
    Settled envId namespaceName before world := by
  refine ⟨by rw [underway.ledger, units, List.map_nil], fun ref unitId => ⟨?_, ?_⟩,
    fun s => ⟨?_, ?_⟩, ?_⟩
  · rintro ⟨object, found, label⟩
    obtain ⟨entry, member, -⟩ := underway.covered.objects ref object unitId found label
    rw [underway.ledger] at member
    cases member
  · rintro ⟨⟨unit, declared, -⟩, -⟩
    rw [units] at declared
    cases declared
  · intro present
    obtain ⟨entry, member, -⟩ := underway.covered.routes s present
    rw [underway.ledger] at member
    cases member
  · rintro ⟨unit, declared, -⟩
    rw [units] at declared
    cases declared
  · rintro rel ⟨entry, member, -⟩
    rw [ledger] at member
    cases member

theorem awaitWorkers_carefully {inv : World → Prop} (held : World → Prop) (start : held world) :
    Carefully inv (fun _ next => held next) (awaitWorkers settings) world := by
  unfold awaitWorkers
  refine Program.Careful.checks fun params _ => ?_
  split
  · exact awaitAll_carefully _ _ _ start
  · exact Program.Careful.pure fun _ => start

theorem reconcile_carefully {ledger : List AppliedSorUnit} :
    Carefully (Underway envId before ledger)
      (fun _ _ => ∃ params, paramsFromAnswers settings = .ok params) (reconcile settings) world := by
  unfold reconcile
  refine Program.Careful.checks fun params parsed => ?_
  refine Program.Careful.andThen _ (applyEnvironment_carefully
    (keep_spare (fun _ => renderEnvironment_spares) _) (.nothing params world)) fun _ next phase => ?_
  exact (pruneAbsent_carefully params phase).mono fun _ _ _ _ => ⟨params, parsed⟩

/-- Where `prepare` ends: nothing to do, or the ledger widened. -/
def PrepareEnds (settings : Settings) (before : World) (prepared : Option PreparedSor)
    (next : World) : Prop :=
  (prepared = none → next = before ∧ before.units = [] ∧ before.ledger = []) ∧
    ∀ sor, prepared = some sor → (∃ params, PreparedFor settings before params sor) ∧
      next = { before with ledger := widen before.ledger sor.desired }

theorem prepare_carefully (covered : Covered settings.env.environmentId before) :
    Carefully (Sound settings before) (fun prepared next => PrepareEnds settings before prepared next)
      (prepare formats settings) before := by
  unfold prepare
  refine Program.Careful.reads _ (carefully_loads before.units (fun _ => rfl)
    fun _ => rfl) fun units found => ?_
  refine Program.Careful.reads _ (carefully_loads before.ledger (fun _ => rfl)
    fun _ => rfl) fun ledger recorded => ?_
  rw [found, recorded]
  split
  · next empty =>
      exact Program.Careful.pure fun _ => ⟨fun _ => ⟨rfl, empty.1, empty.2⟩, nofun⟩
  · refine Program.Careful.andThen _ (prepareUnits_carefully covered) fun sor next ended => ?_
    refine Program.Careful.pure fun _ => ⟨nofun, fun other same => ?_⟩
    cases same
    exact ended

theorem reconcileAndWait_none {ledger : List AppliedSorUnit} :
    Carefully (Underway envId before ledger)
      (fun _ _ => ∃ params, paramsFromAnswers settings = .ok params)
      (reconcileAndWait formats settings none) world := by
  refine Program.Careful.andThen _ reconcile_carefully fun _ last parsed => ?_
  exact awaitWorkers_carefully (fun _ => ∃ params, paramsFromAnswers settings = .ok params) parsed

theorem reconcileAndWait_some (own : settings.env.environmentId = envId)
    (prepared : PreparedFor settings before params sor) :
    Carefully (Underway envId before (widen before.ledger sor.desired))
      (fun _ next => Reconciled envId before params sor next)
      (reconcileAndWait formats settings (some sor)) world := by
  refine Program.Careful.andThen _ (reconcileWithSor_carefully own prepared) fun _ last done => ?_
  exact awaitWorkers_carefully _ done

theorem deploy_carefully (covered : Covered settings.env.environmentId before) :
    Carefully (Sound settings before) (fun _ next => SettledBy settings before next)
      (deploy formats settings) before := by
  unfold deploy
  refine Program.Careful.reads _
    (carefully_reads (fun _ => True) (fun _ => rfl) fun _ _ _ => trivial) fun _ _ => ?_
  refine Program.Careful.andThen _ (prepare_carefully covered) fun prepared next ended => ?_
  cases prepared with
  | none =>
      obtain ⟨rfl, units, ledger⟩ := ended.1 rfl
      have start : Underway settings.env.environmentId next [] next := ledger ▸ .start covered
      refine Program.Careful.andThen _ (Program.Careful.within start
        (fun last underway => ⟨[], underway, nofun, .inl ?_⟩) reconcileAndWait_none)
        fun _ last done => ?_
      · rintro _ _ ⟨entry, member, -⟩
        rw [ledger] at member
        cases member
      obtain ⟨underway, params, parsed⟩ := done
      exact Program.Careful.pure fun _ =>
        ⟨params, parsed, underway.settled_empty units ledger params.namespaceName⟩
  | some sor =>
      obtain ⟨⟨params, ready⟩, rfl⟩ := ended.2 sor rfl
      have start := (Underway.start covered).saved (covered.widen sor.desired)
      refine Program.Careful.andThen _ (Program.Careful.within start
        (fun last underway => ⟨_, underway, ready.desired ▸ widened_inputs _, .inl ?_⟩)
        (reconcileAndWait_some rfl ready)) fun _ last finished => ?_
      · rw [underway.ledger]
        exact fun _ _ => records_widen
      have settled := Reconciled.settled ready finished.1 finished.2
      refine saveLedger_carefully (fun _ => ?_) fun _ => ⟨params, ready.parsed, settled⟩
      exact ⟨_, finished.1.saved settled.covered, ready.desired ▸ desired_inputs _,
        .inr ⟨params, ready.parsed, settled⟩⟩

end GreenticDeployer.Sor
