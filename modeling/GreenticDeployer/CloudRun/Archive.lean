import GreenticDeployer.CloudRun.Service
import GreenticDeployer.Engine.Unrouted

/-!
# Archiving a revision on Cloud Run

An archive deletes one revision, or, when the deployment is retiring, the whole
Service. What is retiring is read off the deployment's status; what is routed is
recorded in the split. The gate before the delete asks the live traffic.
-/

set_option maxHeartbeats 200000

namespace GreenticDeployer.CloudRun

open Spec Engine Lib

structure CloudRunParams where
  project : String
  region : String
  deriving DecidableEq

structure ServiceRef where
  deploymentId : DeploymentId
  params : CloudRunParams
  deriving DecidableEq

structure RevisionRef where
  deploymentId : DeploymentId
  revisionId : RevisionId
  params : CloudRunParams
  deriving DecidableEq

inductive NotDrainedReason
  | endpointsRoute (endpoints : List String) (bundleId : BundleId)
  | unattributed (percent : Nat)
  | routed (percent : Nat) (survivor : Bool)
  deriving DecidableEq

inductive ArchiveError
  | revisionNotFound (envId : EnvId) (revisionId : RevisionId)
  | invalidAnswers
  | notDrained (revisionId : RevisionId) (reason : NotDrainedReason)
  | provider
  deriving DecidableEq

inductive DrainEvidence
  | zeroTrafficPercent (service : DeploymentId) (serviceAbsent : Bool)
  | serviceRetiring (service : DeploymentId)
  | forced
  deriving DecidableEq

/-- The outside of one archive: the parsed answers, what `get_service` reports
and whether the delete goes through. -/
structure ArchiveOutside where
  answers : Except ArchiveError CloudRunParams
  service : ServiceRef → Except ArchiveError (Option ServiceStatus)
  deletes : Bool

def wholeBundleRetiring (env : Environment) (revisionId : RevisionId) : Bool :=
  match revisionOf env revisionId with
  | none => false
  | some revision =>
    env.bundles.any fun b => b.deploymentId = revision.deploymentId ∧ b.status = .archived

def requireNoEndpointRoute (env : Environment) (revisionId : RevisionId) :
    Except ArchiveError Unit :=
  match revisionOf env revisionId with
  | none => .ok ()
  | some revision =>
    let still := (env.messagingEndpoints.filter (linksBundle revision.bundleId)).map (·.displayName)
    if still.isEmpty then .ok ()
    else .error (.notDrained revisionId (.endpointsRoute still revision.bundleId))

def drainServiceRef (env : Environment) (outside : ArchiveOutside) (revisionId : RevisionId) :
    Except ArchiveError ServiceRef :=
  match revisionOf env revisionId with
  | none => .error (.revisionNotFound env.environmentId revisionId)
  | some revision => do
    let params ← outside.answers
    .ok ⟨revision.deploymentId, params⟩

/-- Another revision of the deployment that is not archived. -/
def hasSurvivor (env : Environment) (revisionId : RevisionId) : Bool :=
  (revisionOf env revisionId).any fun revision =>
    env.revisions.any fun r =>
      r.deploymentId = revision.deploymentId ∧ r.revisionId ≠ revisionId ∧ r.lifecycle ≠ .archived

/-- `probe_traffic` and, the policy being immediate, the whole of
`confirm_within`. Traffic that is on no named revision could be this one's. -/
def probeTraffic (env : Environment) (outside : ArchiveOutside) (service : ServiceRef)
    (revisionId : RevisionId) : Except ArchiveError DrainEvidence := do
  match ← outside.service service with
  | none => .ok (.zeroTrafficPercent service.deploymentId true)
  | some status =>
    let percent := percentSum (status.traffic.filter fun target => target.revisionId = revisionId)
    let unattributed := 100 - percentSum status.traffic
    if percent = 0 ∧ unattributed = 0 then .ok (.zeroTrafficPercent service.deploymentId false)
    else if percent = 0 then .error (.notDrained revisionId (.unattributed unattributed))
    else .error (.notDrained revisionId (.routed percent (hasSurvivor env revisionId)))

def confirmDrainedNow (env : Environment) (outside : ArchiveOutside) (revisionId : RevisionId) :
    Except ArchiveError DrainEvidence := do
  let service ← drainServiceRef env outside revisionId
  if wholeBundleRetiring env revisionId then do
    requireNoEndpointRoute env revisionId
    .ok (.serviceRetiring service.deploymentId)
  else probeTraffic env outside service revisionId

def archiveDrainGate (env : Environment) (outside : ArchiveOutside) (revisionId : RevisionId)
    (force : Bool) : Except ArchiveError DrainEvidence :=
  if force then .ok .forced else confirmDrainedNow env outside revisionId

inductive Deletion
  | service (target : ServiceRef)
  | revision (target : RevisionRef)
  deriving DecidableEq

/-- The provider-side `archive_revision`. -/
def archiveRevision (env : Environment) (outside : ArchiveOutside) (revisionId : RevisionId) :
    Except ArchiveError Deletion :=
  match revisionOf env revisionId with
  | none => .error (.revisionNotFound env.environmentId revisionId)
  | some revision => do
    let params ← outside.answers
    let deletion : Deletion :=
      if wholeBundleRetiring env revisionId then .service ⟨revision.deploymentId, params⟩
      else .revision ⟨revision.deploymentId, revisionId, params⟩
    if outside.deletes then .ok deletion else .error .provider

/-- Who asks for an archive: `op env apply-revision`, which archives only what
has no cluster presence, or the teardown step of `op bundles retire`. -/
inductive ArchiveCaller
  | applyRevision
  | retireTeardown
  deriving DecidableEq

def hasClusterPresence (lifecycle : RevisionLifecycle) : Bool :=
  lifecycle = .warming ∨ lifecycle = .ready ∨ lifecycle = .draining

/-- Gate, then archive. `apply-revision` warms a revision with presence and
deletes nothing. -/
def providerArchive (caller : ArchiveCaller) (env : Environment) (outside : ArchiveOutside)
    (force : Bool) (revisionId : RevisionId) : Except ArchiveError (Option Deletion) :=
  match revisionOf env revisionId with
  | none => .error (.revisionNotFound env.environmentId revisionId)
  | some revision =>
    if caller = .applyRevision ∧ hasClusterPresence revision.lifecycle then .ok none
    else do
      let _ ← archiveDrainGate env outside revisionId force
      let deletion ← archiveRevision env outside revisionId
      .ok (some deletion)

def Deletion.deploymentId : Deletion → DeploymentId
  | .service target => target.deploymentId
  | .revision target => target.deploymentId

def Deletion.serves : Deletion → RevisionId → Prop
  | .service _, _ => True
  | .revision target, revisionId => target.revisionId = revisionId

/-- Nothing deleted serves a revision the recorded split gives weight, and a
whole Service goes only without a split. -/
def SparesRouted (env : Environment) (deletion : Deletion) : Prop :=
  (∀ split ∈ env.trafficSplits, split.deploymentId = deletion.deploymentId →
    ∀ entry ∈ split.entries, 0 < entry.weightBps.toNat → ¬ deletion.serves entry.revisionId) ∧
  ∀ target, deletion = .service target →
    ∀ split ∈ env.trafficSplits, split.deploymentId ≠ target.deploymentId

def recordedWeightBps (env : Environment) (revisionId : RevisionId) : Nat :=
  (((env.trafficSplits.flatMap (·.entries)).filter fun entry => entry.revisionId = revisionId).map
    fun entry => entry.weightBps.toNat).sum

/-- A deployment marked archived has no split; and a teardown that meets a
deployment not marked finds no recorded weight on its revision. -/
def MarkAgreesWithSplit (caller : ArchiveCaller) (env : Environment) (revisionId : RevisionId) :
    Prop :=
  (∀ revision, revisionOf env revisionId = some revision → Retired env revision.deploymentId →
    ¬ Routed env revision.deploymentId) ∧
  ((∀ revision, revisionOf env revisionId = some revision → ¬ Retired env revision.deploymentId) →
    caller = .retireTeardown → recordedWeightBps env revisionId = 0)

theorem wholeBundleRetiring_iff {env : Environment} {revisionId : RevisionId}
    {revision : Revision} (found : revisionOf env revisionId = some revision) :
    wholeBundleRetiring env revisionId = true ↔ Retired env revision.deploymentId := by
  simp [wholeBundleRetiring, found, Retired]

theorem providerArchive_ok {caller : ArchiveCaller} {env : Environment} {outside : ArchiveOutside}
    {force : Bool} {revisionId : RevisionId} {deletion : Deletion}
    (ran : providerArchive caller env outside force revisionId = .ok (some deletion)) :
    ∃ revision params, revisionOf env revisionId = some revision ∧
      (caller = .applyRevision → hasClusterPresence revision.lifecycle = false) ∧
      deletion = if wholeBundleRetiring env revisionId then
          .service ⟨revision.deploymentId, params⟩
        else .revision ⟨revision.deploymentId, revisionId, params⟩ := by
  unfold providerArchive at ran
  split at ran
  · cases ran
  · next revision found =>
      split at ran
      · cases ran
      · next absent =>
          obtain ⟨evidence, gate, archived⟩ := bind_ok ran
          obtain ⟨deleted, deletes, done⟩ := bind_ok archived
          cases done
          unfold archiveRevision at deletes
          rw [found] at deletes
          obtain ⟨params, parsed, last⟩ := bind_ok deletes
          dsimp only at last
          split at last
          · cases last
            refine ⟨revision, params, found, ?_, rfl⟩
            intro applied
            simpa [applied] using absent
          · cases last

theorem recordedWeightBps_eq_zero {env : Environment} {revisionId : RevisionId} :
    recordedWeightBps env revisionId = 0 ↔
      ∀ split ∈ env.trafficSplits, ∀ entry ∈ split.entries, entry.revisionId = revisionId →
        entry.weightBps.toNat = 0 := by
  simp only [recordedWeightBps, List.sum_eq_zero_iff_forall_eq_nat, List.mem_map, List.mem_filter,
    List.mem_flatMap, decide_eq_true_eq, forall_exists_index, and_imp]
  constructor
  · intro zero split member entry inside named
    exact zero _ entry split member inside named rfl
  · rintro zero _ entry split member inside named rfl
    exact zero split member entry inside named

variable {serde : SerdeJson}

theorem sparesRouted_service {env : Environment} {target : ServiceRef} :
    SparesRouted env (.service target) ↔ ¬ Routed env target.deploymentId := by
  constructor
  · rintro spares ⟨split, member, same⟩
    exact spares.2 target rfl split member same
  · intro unrouted
    constructor
    · intro split member same
      exact absurd ⟨split, member, same⟩ unrouted
    · intro other given split member same
      cases given
      exact unrouted ⟨split, member, same⟩

theorem sparesRouted_revision {env : Environment} (routing : Routing serde env)
    {revision : Revision} {target : RevisionRef}
    (found : revisionOf env target.revisionId = some revision)
    (own : target.deploymentId = revision.deploymentId) :
    SparesRouted env (.revision target) ↔ recordedWeightBps env target.revisionId = 0 := by
  rw [recordedWeightBps_eq_zero]
  constructor
  · intro spares split member entry inside named
    obtain ⟨routed, present, same, -⟩ := (routing.splits split member).routed entry inside
    rw [named, found] at present
    cases present
    by_contra positive
    exact spares.1 split member (same.symm.trans own.symm) entry inside (by omega) named.symm
  · intro zero
    constructor
    · intro split member _ entry inside positive named
      have none := zero split member entry inside named.symm
      omega
    · intro other service
      cases service

theorem recordedWeightBps_absent {env : Environment} (routing : Routing serde env)
    {revisionId : RevisionId} {revision : Revision}
    (found : revisionOf env revisionId = some revision)
    (absent : hasClusterPresence revision.lifecycle = false) :
    recordedWeightBps env revisionId = 0 := by
  rw [recordedWeightBps_eq_zero]
  intro split member entry inside named
  obtain ⟨routed, present, -, live⟩ := (routing.splits split member).routed entry inside
  rw [named, found] at present
  cases present
  cases lifecycle : revision.lifecycle <;> simp_all [routable, hasClusterPresence]

theorem sparesRouted_iff {env : Environment} (routing : Routing serde env)
    {caller : ArchiveCaller} {outside : ArchiveOutside} {force : Bool} {revisionId : RevisionId}
    {deletion : Deletion}
    (ran : providerArchive caller env outside force revisionId = .ok (some deletion)) :
    SparesRouted env deletion ↔ MarkAgreesWithSplit caller env revisionId := by
  obtain ⟨revision, params, found, absent, rfl⟩ := providerArchive_ok ran
  have retiring := wholeBundleRetiring_iff found
  unfold MarkAgreesWithSplit
  simp only [found, Option.some.injEq, forall_eq']
  split
  · next whole =>
      have marked := retiring.mp whole
      rw [sparesRouted_service]
      simp [marked]
  · next single =>
      have unmarked : ¬ Retired env revision.deploymentId := fun marked =>
        single (retiring.mpr marked)
      rw [sparesRouted_revision routing found rfl]
      simp only [unmarked, false_implies, not_false_eq_true, true_implies, true_and]
      constructor
      · intro zero _
        exact zero
      · intro torn
        cases caller with
        | applyRevision => exact recordedWeightBps_absent routing found (absent rfl)
        | retireTeardown => exact torn rfl

/-- In every environment the engine reaches, an archive spares what is routed
exactly when the mark and the split agree; and where no verb of the run marks a
routed deployment archived or routes to an archived one, they agree for every
revision `apply-revision` archives, and for a teardown unless the mark was taken
back. -/
theorem archive_spares_routed (serde : SerdeJson) (ext : Externals) (envId : EnvId) (name : String)
    (hostConfig : EnvironmentHostConfig) (revocation : RevocationConfig)
    (retention : RetentionPolicy) (health : HealthStatus) (verbs : List Verb) :
    ((engine serde ext).Admits
        (freshEnvironment envId name hostConfig revocation retention health) verbs →
      ∀ env ∈ (engine serde ext).states
          (freshEnvironment envId name hostConfig revocation retention health) verbs,
        ∀ caller outside force revisionId deletion,
          providerArchive caller env outside force revisionId = .ok (some deletion) →
          (SparesRouted env deletion ↔ MarkAgreesWithSplit caller env revisionId)) ∧
    (((engine serde ext).restrict fun env verb => verb.keepsMarksApart env).Admits
        (freshEnvironment envId name hostConfig revocation retention health) verbs →
      ∀ env ∈ ((engine serde ext).restrict fun env verb => verb.keepsMarksApart env).states
          (freshEnvironment envId name hostConfig revocation retention health) verbs,
        ∀ caller outside force revisionId deletion,
          (caller = .retireTeardown → wholeBundleRetiring env revisionId = true) →
          providerArchive caller env outside force revisionId = .ok (some deletion) →
          SparesRouted env deletion) := by
  constructor
  · intro admits env visited caller outside force revisionId deletion ran
    have kept : WellKept serde env := by
      refine (engine serde ext).invariant (WellKept serde) ?_ _ verbs admits ?_ env visited
      · intro state verb fresh holds
        exact holds.step ext fresh
      · exact .fresh ..
    exact sparesRouted_iff kept.routing ran
  · intro admits env visited caller outside force revisionId deletion marked ran
    have both : WellKept serde env ∧ RetiredUnrouted env := by
      refine ((engine serde ext).restrict fun env verb => verb.keepsMarksApart env).invariant
        (fun env => WellKept serde env ∧ RetiredUnrouted env) ?_ _ verbs admits ?_ env visited
      · intro state verb met holds
        exact ⟨holds.1.step ext met.1, holds.2.step ext holds.1 met.2⟩
      · refine ⟨.fresh .., ?_⟩
        rintro id ⟨bundle, member, -⟩
        cases member
    refine (sparesRouted_iff both.1.routing ran).mpr ⟨?_, ?_⟩
    · intro revision found retired
      exact both.2 _ retired
    · intro unmarked torn
      obtain ⟨revision, params, found, -⟩ := providerArchive_ok ran
      have whole := (wholeBundleRetiring_iff found).mp (marked torn)
      exact absurd whole (unmarked revision found)

/-- The Service is up with everything on revision 7, and nothing is refused. -/
def liveOutside : ArchiveOutside where
  answers := .ok ⟨"project", "region"⟩
  service := fun _ => .ok (some ⟨[⟨⟨7⟩, 100⟩], 1⟩)
  deletes := true

def retiredRun : List Verb :=
  [.addBundle demoBundle ⟨1⟩ 0 "policy.json", .stageRevision demoRevision 1,
    .warmRevision ⟨⟨7⟩, .ok (), .staged⟩ 2,
    .setTrafficSplit ⟨⟨1⟩, [⟨⟨7⟩, 10000⟩], "op", none⟩ firstKey 3, .beginRetire ⟨1⟩]

theorem retired_service_is_unrouted :
    providerArchive .retireTeardown ((engine firstSplitJson noExternals).run localFresh retiredRun)
        liveOutside false ⟨7⟩ = .ok (some (.service ⟨⟨1⟩, ⟨"project", "region"⟩⟩)) ∧
      SparesRouted ((engine firstSplitJson noExternals).run localFresh retiredRun)
        (.service ⟨⟨1⟩, ⟨"project", "region"⟩⟩) := by
  have ran : providerArchive .retireTeardown
      ((engine firstSplitJson noExternals).run localFresh retiredRun) liveOutside false ⟨7⟩ =
      .ok (some (.service ⟨⟨1⟩, ⟨"project", "region"⟩⟩)) := by
    decide
  have admits : ((engine firstSplitJson noExternals).restrict
      fun env verb => verb.keepsMarksApart env).Admits localFresh retiredRun := by
    refine ⟨⟨rfl, trivial⟩, ⟨rfl, trivial⟩, ⟨rfl, trivial⟩, ⟨rfl, ?_⟩, ⟨rfl, trivial⟩, trivial⟩
    rintro ⟨bundle, member, -, archived⟩
    have active : ((engine firstSplitJson noExternals).run localFresh
        (retiredRun.take 3)).bundles.map (·.status) = [.active] := by
      decide
    have marked := List.mem_map_of_mem (f := (·.status)) member
    rw [archived] at marked
    have wrong : BundleDeploymentStatus.archived ∈ [BundleDeploymentStatus.active] := active ▸ marked
    simp at wrong
  refine ⟨ran, ?_⟩
  refine (archive_spares_routed firstSplitJson noExternals _ _ _ _ _ _ retiredRun).2 admits _
    (System.run_mem_states _ _ _) .retireTeardown liveOutside false ⟨7⟩ _ ?_ ran
  intro _
  decide

/-- Deploy, route to revision 7, stage revision 8, and mark the deployment
archived by an update. -/
def markedRun : List Verb :=
  [.addBundle demoBundle ⟨1⟩ 0 "policy.json", .stageRevision demoRevision 1,
    .warmRevision ⟨⟨7⟩, .ok (), .staged⟩ 2,
    .setTrafficSplit ⟨⟨1⟩, [⟨⟨7⟩, 10000⟩], "op", none⟩ firstKey 3,
    .stageRevision { demoRevision with revisionId := ⟨8⟩ } 4,
    .updateBundle ⟨⟨1⟩, none, some .archived, none, none, none⟩ "policy.json"]

/-- The gate passes for the staged revision 8, and archiving it deletes the
Service that the split still routes everything through. -/
theorem marked_deployment_loses_routed_service :
    ¬ ∀ verbs, (engine firstSplitJson noExternals).Admits localFresh verbs →
      ∀ env ∈ (engine firstSplitJson noExternals).states localFresh verbs,
        ∀ caller outside revisionId deletion,
          providerArchive caller env outside false revisionId = .ok (some deletion) →
          SparesRouted env deletion := by
  intro claim
  have admits : (engine firstSplitJson noExternals).Admits localFresh markedRun := by
    simp [System.Admits, engine, markedRun, Verb.mintsFresh, localFresh, freshEnvironment]
  have ran : providerArchive .applyRevision
      ((engine firstSplitJson noExternals).run localFresh markedRun) liveOutside false ⟨8⟩ =
      .ok (some (.service ⟨⟨1⟩, ⟨"project", "region"⟩⟩)) := by
    decide
  have recorded : ((engine firstSplitJson noExternals).run localFresh markedRun).trafficSplits =
      [firstSplit] := by
    decide
  have spares := claim markedRun admits _ (System.run_mem_states _ _ _) _ _ _ _ ran
  refine spares.2 _ rfl firstSplit ?_ rfl
  rw [recorded]
  exact List.mem_singleton_self firstSplit

end GreenticDeployer.CloudRun
