import GreenticDeployer.Engine.Bindings
import GreenticDeployer.Engine.Environments
import GreenticDeployer.Engine.Routing
import GreenticDeployer.Lib.Filling
import GreenticDeployer.Lib.Runs
import GreenticDeployer.Spec.Valid

/-!
# Migrating the legacy environment

`migrate-dev` merges the bindings of `dev` into a target and renames the directory of
`dev` away. An eligible source holds none of four parts. What is neither checked nor
merged stays behind in the renamed directory.
-/

set_option maxHeartbeats 200000

namespace GreenticDeployer.Local.MigrateDev

open Spec Lib Engine

def legacyEnvId : EnvId := ⟨"dev"⟩

/-- What is at `<env>/environment.json`. -/
inductive StoredDocument where
  | absent
  | unreadable
  | readable (env : Environment)

inductive LoadError where
  | notFound (id : EnvId)
  | json
  | envIdMismatch (file value : EnvId)
  | spec (error : SpecError)

def checkDocument (ext : Externals) (id : EnvId) (env : Environment) : Except LoadError Unit :=
  if env.environmentId ≠ id then .error (.envIdMismatch id env.environmentId)
  else (env.validate ext).mapError .spec

namespace StoredDocument

def present : StoredDocument → Bool
  | .absent => false
  | .unreadable | .readable _ => true

def load (ext : Externals) (id : EnvId) : StoredDocument → Except LoadError Environment
  | .absent => .error (.notFound id)
  | .unreadable => .error .json
  | .readable env => do
    checkDocument ext id env
    return env

def part {α : Type} (field : Environment → List α) : StoredDocument → List α
  | .readable env => field env
  | .absent | .unreadable => []

end StoredDocument

inductive FindingSeverity where
  | info
  | blocking
  deriving DecidableEq

inductive MigrationFinding where
  | legacyEnvComplex (reason : String)
  | legacyEnvSimple
  | legacyEnvUnreadable (error : LoadError)
  | runtimeEnvVar (value : String)
  | auditLogScannerDeferred
  | secretsStoreScannerDeferred

namespace MigrationFinding

def severity : MigrationFinding → FindingSeverity
  | .legacyEnvComplex _ | .legacyEnvUnreadable _ => .blocking
  | .legacyEnvSimple | .runtimeEnvVar _ | .auditLogScannerDeferred
  | .secretsStoreScannerDeferred => .info

end MigrationFinding

/-- The parts a migration refuses to rewrite. -/
def classifySource (env : Environment) : Option String :=
  if env.credentialsRef.isSome then some "a `credentials_ref` pointing at env-scoped secrets"
  else if env.bundles ≠ [] then some "one or more `BundleDeployment`s"
  else if env.revisions ≠ [] then some "one or more `Revision`s"
  else if env.trafficSplits ≠ [] then some "one or more `TrafficSplit`s"
  else none

/-- The directories of one root: `dev`, the target's, and those renamed away. -/
structure MigrateRoot where
  source : StoredDocument
  target : StoredDocument
  migrated : List (String × StoredDocument)

def scanLocalFsStore (ext : Externals) (source : StoredDocument) : List MigrationFinding :=
  if source.present then
    match source.load ext legacyEnvId with
    | .ok env =>
      match classifySource env with
      | some reason => [.legacyEnvComplex reason]
      | none => [.legacyEnvSimple]
    | .error e => [.legacyEnvUnreadable e]
  else []

def classifyRuntimeEnvVar (value : Option String) : Option MigrationFinding :=
  match value with
  | none => none
  | some value => if value ≠ legacyEnvId.asStr then none else some (.runtimeEnvVar value)

structure MigrateDevReport where
  fromEnv : EnvId
  toEnv : EnvId
  clean : Bool
  findings : List MigrationFinding

def isBlocking (finding : MigrationFinding) : Bool := finding.severity = .blocking

/-- Every scanner, in the order of `default_scanners`. -/
def scan (ext : Externals) (greenticEnv : Option String) (root : MigrateRoot) :
    List MigrationFinding :=
  scanLocalFsStore ext root.source ++ (classifyRuntimeEnvVar greenticEnv).toList ++
    [.secretsStoreScannerDeferred, .auditLogScannerDeferred]

def runCheck (ext : Externals) (target : EnvId) (greenticEnv : Option String)
    (root : MigrateRoot) : MigrateDevReport where
  fromEnv := legacyEnvId
  toEnv := target
  clean := !(scan ext greenticEnv root).any isBlocking
  findings := scan ext greenticEnv root

inductive MigrateError where
  | invalidArgument
  | blockingFindings (count : Nat)
  | ineligible
  | store (error : LoadError)
  | engine (error : EngineError)
  | io

def existingTarget : Except LoadError Environment → Except MigrateError (Option Environment)
  | .ok env => .ok (some env)
  | .error (.notFound _) => .ok none
  | .error e => .error (.store e)

def migrateMergeBindings (ext : Externals) (target : EnvId) (packs : List EnvPackBinding)
    (extensions : List ExtensionBinding) (seedIfMissing : Option MigrateSeedPayload)
    (stored : StoredDocument) : Except MigrateError (MergeReport × Environment) := do
  let existing ← existingTarget (stored.load ext target)
  let env ← (seedOrExisting existing target seedIfMissing).mapError .engine
  (checkDocument ext target (mergeBindings env packs extensions).2).mapError .store
  return mergeBindings env packs extensions

def seedOf (source : Environment) : MigrateSeedPayload :=
  ⟨source.hostConfig, source.revocation, source.retention, source.health⟩

/-- The fields of the source that `apply` moves into the payload. -/
def mergeSource (ext : Externals) (target : EnvId) (source : Environment)
    (stored : StoredDocument) : Except MigrateError (MergeReport × Environment) :=
  migrateMergeBindings ext target source.packs source.extensions (some (seedOf source)) stored

/-- How far a call gets once the merge is computed. -/
inductive Progress where
  /-- Not to the rename of the new document over the old. -/
  | stopped
  /-- To the new document, but not to the rename of the directory. -/
  | saved
  | finished

structure MigrateCall where
  greenticEnv : Option String
  stamp : String
  progress : Progress

structure MigrateDevApplyOutcome where
  fromEnv : EnvId
  toEnv : EnvId
  mergedSlots : List String
  mergedExtensions : List String
  legacyDirRenamedTo : Option String

def migratedName (stamp : String) : String := ".dev-migrated-" ++ stamp

def complete (target : EnvId) (call : MigrateCall) (root : MigrateRoot) (report : MergeReport)
    (merged : Environment) : Except MigrateError MigrateDevApplyOutcome × MigrateRoot :=
  match call.progress with
  | .stopped => (.error .io, root)
  | .saved => (.error .io, { root with target := .readable merged })
  | .finished =>
    (.ok ⟨legacyEnvId, target, report.mergedSlots, report.mergedExtensions,
        some (migratedName call.stamp)⟩,
      ⟨.absent, .readable merged, root.migrated ++ [(migratedName call.stamp, root.source)]⟩)

def apply (ext : Externals) (target : EnvId) (call : MigrateCall) (root : MigrateRoot) :
    Except MigrateError MigrateDevApplyOutcome × MigrateRoot :=
  if target = legacyEnvId then (.error .invalidArgument, root)
  else if (runCheck ext target call.greenticEnv root).clean = false then
    (.error (.blockingFindings
      ((runCheck ext target call.greenticEnv root).findings.countP isBlocking)), root)
  else if root.source.present = false then (.ok ⟨legacyEnvId, target, [], [], none⟩, root)
  else
    match root.source.load ext legacyEnvId with
    | .error e => (.error (.store e), root)
    | .ok source =>
      -- The check has found this already; a scanner may be bypassed.
      if (classifySource source).isSome then (.error .ineligible, root)
      else
        match mergeSource ext target source root.target with
        | .error e => (.error e, root)
        | .ok (report, merged) => complete target call root report merged

/-- The calls of `migrate-dev --apply` on one target. -/
def applies (ext : Externals) (target : EnvId) : System MigrateRoot MigrateCall where
  step := fun root call => (apply ext target call root).2
  allowed := fun _ _ => True

theorem mergePacks_eq (env : Environment) (packs : List EnvPackBinding) :
    (mergePacks env packs).2 = { env with packs := fill (·.slot) env.packs packs } := by
  induction packs generalizing env with
  | nil => rfl
  | cons binding rest ih =>
      have same : (env.packs.any fun b => b.slot = binding.slot) = true ↔
          binding.slot ∈ env.packs.map (·.slot) := by simp
      simp only [mergePacks, fill]
      by_cases taken : binding.slot ∈ env.packs.map (·.slot)
      · rw [if_pos (same.mpr taken), if_pos taken, ih]
      · rw [if_neg (fun found => taken (same.mp found)), if_neg taken, ih]

theorem mergeExtensions_eq (env : Environment) (extensions : List ExtensionBinding) :
    (mergeExtensions env extensions).2 =
      { env with extensions := fill ExtensionKey.fromBinding env.extensions extensions } := by
  induction extensions generalizing env with
  | nil => rfl
  | cons binding rest ih =>
      have same : (env.extensions.any fun b => (ExtensionKey.fromBinding binding).isKeyOf b) =
          true ↔ ExtensionKey.fromBinding binding ∈ env.extensions.map ExtensionKey.fromBinding := by
        simp [ExtensionKey.isKeyOf_iff]
      simp only [mergeExtensions, fill]
      by_cases taken : ExtensionKey.fromBinding binding ∈
          env.extensions.map ExtensionKey.fromBinding
      · rw [if_pos (same.mpr taken), if_pos taken, ih]
      · rw [if_neg (fun found => taken (same.mp found)), if_neg taken, ih]

/-- The target filled from a source: the only two fields a merge may change. -/
def filled (base source : Environment) : Environment :=
  { base with
    packs := fill (·.slot) base.packs source.packs
    extensions := fill ExtensionKey.fromBinding base.extensions source.extensions }

theorem mergeBindings_eq (base source : Environment) :
    (mergeBindings base source.packs source.extensions).2 = filled base source := by
  change (mergeExtensions (mergePacks base source.packs).2 source.extensions).2 = _
  rw [mergePacks_eq, mergeExtensions_eq]
  rfl

theorem filled_again (base source : Environment) :
    filled (filled base source) source = filled base source := by
  simp only [filled, fill_again]

inductive Base (ext : Externals) (target : EnvId) (source : Environment) :
    StoredDocument → Environment → Prop
  | own {env : Environment} (checked : checkDocument ext target env = .ok ()) :
      Base ext target source (.readable env) env
  | fresh :
      Base ext target source .absent
        (freshEnvironment target target.asStr source.hostConfig source.revocation
          source.retention source.health)

theorem load_ok {ext : Externals} {id : EnvId} {stored : StoredDocument} {env : Environment} :
    stored.load ext id = .ok env ↔
      stored = .readable env ∧ checkDocument ext id env = .ok () := by
  constructor
  · intro loaded
    cases stored with
    | absent => cases loaded
    | unreadable => cases loaded
    | readable held =>
        obtain ⟨_, checked, same⟩ := bind_ok loaded
        cases pure_ok same
        exact ⟨rfl, checked⟩
  · rintro ⟨rfl, checked⟩
    exact bind_of_ok checked _

theorem existingTarget_ok {ext : Externals} {target : EnvId} {stored : StoredDocument}
    {existing : Option Environment}
    (returned : existingTarget (stored.load ext target) = .ok existing) :
    (stored = .absent ∧ existing = none) ∨
      ∃ env, existing = some env ∧ stored = .readable env ∧
        checkDocument ext target env = .ok () := by
  cases stored with
  | absent =>
      cases returned
      exact .inl ⟨rfl, rfl⟩
  | unreadable => cases returned
  | readable held =>
      right
      cases read : StoredDocument.load ext target (.readable held) with
      | ok env =>
          rw [read] at returned
          cases returned
          exact ⟨env, rfl, load_ok.mp read⟩
      | error e =>
          rw [read] at returned
          cases e with
          | notFound id =>
              simp only [StoredDocument.load, checkDocument] at read
              split at read
              · cases read
              · cases valid : held.validate ext <;> rw [valid] at read <;> cases read
          | json => cases returned
          | envIdMismatch file value => cases returned
          | spec error => cases returned

theorem mergeSource_ok {ext : Externals} {target : EnvId} {source : Environment}
    {stored : StoredDocument} {report : MergeReport} {merged : Environment}
    (returned : mergeSource ext target source stored = .ok (report, merged)) :
    ∃ base, Base ext target source stored base ∧ merged = filled base source ∧
      checkDocument ext target merged = .ok () := by
  obtain ⟨existing, loaded, returned⟩ := bind_ok returned
  obtain ⟨base, seeded, returned⟩ := bind_ok returned
  obtain ⟨_, checked, returned⟩ := bind_ok returned
  have result : (mergeBindings base source.packs source.extensions).2 = merged :=
    congrArg Prod.snd (pure_ok returned)
  rw [result] at checked
  refine ⟨base, ?_, result ▸ mergeBindings_eq base source, mapError_ok checked⟩
  obtain ⟨rfl, rfl⟩ | ⟨env, rfl, rfl, own⟩ := existingTarget_ok loaded
  · cases seeded
    exact .fresh
  · cases seeded
    exact .own own

theorem mergeSource_again {ext : Externals} {target : EnvId} {source : Environment}
    {stored : StoredDocument} {report report' : MergeReport} {merged merged' : Environment}
    (first : mergeSource ext target source stored = .ok (report, merged))
    (second : mergeSource ext target source (.readable merged) = .ok (report', merged')) :
    merged' = merged := by
  obtain ⟨base, -, rfl, -⟩ := mergeSource_ok first
  obtain ⟨base', own, rfl, -⟩ := mergeSource_ok second
  cases own
  exact filled_again base source

inductive Applied (ext : Externals) (target : EnvId) (root : MigrateRoot) :
    Except MigrateError MigrateDevApplyOutcome × MigrateRoot → Prop
  | refused (e : MigrateError) : Applied ext target root (.error e, root)
  | nothing (gone : root.source = .absent) (outcome : MigrateDevApplyOutcome) :
      Applied ext target root (.ok outcome, root)
  | saved {source : Environment} {report : MergeReport} {merged : Environment}
      (held : root.source = .readable source)
      (merge : mergeSource ext target source root.target = .ok (report, merged)) :
      Applied ext target root (.error .io, { root with target := .readable merged })
  | migrated {source : Environment} {report : MergeReport} {merged : Environment}
      (held : root.source = .readable source)
      (merge : mergeSource ext target source root.target = .ok (report, merged))
      (outcome : MigrateDevApplyOutcome) (renamed : List (String × StoredDocument)) :
      Applied ext target root (.ok outcome, ⟨.absent, .readable merged, renamed⟩)

theorem apply_applied (ext : Externals) (target : EnvId) (call : MigrateCall)
    (root : MigrateRoot) : Applied ext target root (apply ext target call root) := by
  unfold apply
  split
  · exact .refused _
  split
  · exact .refused _
  split
  · rename_i missing
    refine .nothing ?_ _
    cases at_ : root.source with
    | absent => rfl
    | unreadable => simp [at_, StoredDocument.present] at missing
    | readable env => simp [at_, StoredDocument.present] at missing
  split
  · exact .refused _
  rename_i source loaded
  have held := (load_ok.mp loaded).1
  split
  · exact .refused _
  split
  · exact .refused _
  rename_i report merged merge
  unfold complete
  cases call.progress with
  | stopped => exact .refused _
  | saved => exact .saved held merge
  | finished => exact .migrated held merge _ _

/-- Where the calls stand: the merge is still to come, or done. -/
inductive Stage (ext : Externals) (target : EnvId) (start : MigrateRoot) (source : Environment)
    (root : MigrateRoot) : Prop
  | untouched (held : root.source = .readable source) (same : root.target = start.target)
  | merged {report : MergeReport} {merged : Environment}
      (merge : mergeSource ext target source start.target = .ok (report, merged))
      (target_ : root.target = .readable merged)
      (source_ : root.source = .readable source ∨ root.source = .absent)

/-- However far earlier calls got, a merge yields what the first would have. -/
theorem merge_at_stage {ext : Externals} {target : EnvId} {start root : MigrateRoot}
    {source held : Environment} (stage : Stage ext target start source root)
    (there : root.source = .readable held) {report : MergeReport} {merged : Environment}
    (merge : mergeSource ext target held root.target = .ok (report, merged)) :
    held = source ∧ ∃ report, mergeSource ext target source start.target = .ok (report, merged) := by
  cases stage with
  | untouched unchanged same =>
      rw [unchanged] at there
      cases there
      exact ⟨rfl, report, same ▸ merge⟩
  | @merged report' merged' first target_ source_ =>
      rcases source_ with unchanged | gone
      · rw [unchanged] at there
        cases there
        rw [target_] at merge
        exact ⟨rfl, report', mergeSource_again first merge ▸ first⟩
      · rw [gone] at there
        cases there

theorem stage_step {ext : Externals} {target : EnvId} {start root : MigrateRoot}
    {source : Environment} (stage : Stage ext target start source root) (call : MigrateCall) :
    Stage ext target start source (apply ext target call root).2 := by
  have done := apply_applied ext target call root
  generalize apply ext target call root = result at done ⊢
  cases done with
  | refused e => exact stage
  | nothing gone outcome => exact stage
  | saved there merge =>
      obtain ⟨rfl, report, first⟩ := merge_at_stage stage there merge
      exact .merged first rfl (.inl there)
  | migrated there merge outcome renamed =>
      obtain ⟨rfl, report, first⟩ := merge_at_stage stage there merge
      exact .merged first rfl (.inr rfl)

theorem stage_run {ext : Externals} {target : EnvId} {start : MigrateRoot} {source : Environment}
    (held : start.source = .readable source) (calls : List MigrateCall) :
    Stage ext target start source ((applies ext target).run start calls) :=
  (applies ext target).run_invariant (Stage ext target start source)
    (fun _ call _ stage => stage_step stage call) start calls
    ((applies ext target).admits_of_allowed (fun _ _ => trivial) start calls)
    (.untouched held rfl)

theorem stage_succeeded {ext : Externals} {target : EnvId} {start root : MigrateRoot}
    {source : Environment} (stage : Stage ext target start source root) {call : MigrateCall}
    (succeeded : (apply ext target call root).1.isOk = true) :
    (apply ext target call root).2.source = .absent ∧
      ∃ report merged, mergeSource ext target source start.target = .ok (report, merged) ∧
        (apply ext target call root).2.target = .readable merged := by
  have done := apply_applied ext target call root
  generalize apply ext target call root = result at done succeeded ⊢
  cases done with
  | refused e => cases succeeded
  | nothing gone outcome =>
      refine ⟨gone, ?_⟩
      cases stage with
      | untouched unchanged same => cases gone.symm.trans unchanged
      | merged merge target_ source_ => exact ⟨_, _, merge, target_⟩
  | saved there merge => cases succeeded
  | migrated there merge outcome renamed =>
      obtain ⟨rfl, report, first⟩ := merge_at_stage stage there merge
      exact ⟨rfl, report, _, first, rfl⟩

theorem apply_without_source {ext : Externals} {target : EnvId} {root : MigrateRoot}
    (gone : root.source = .absent) (call : MigrateCall) :
    (apply ext target call root).2 = root := by
  have done := apply_applied ext target call root
  generalize apply ext target call root = result at done ⊢
  cases done with
  | refused e => rfl
  | nothing gone outcome => rfl
  | saved there merge => cases gone.symm.trans there
  | migrated there merge outcome renamed => cases gone.symm.trans there

/-- Nothing bound in the source or the target is lost, nor an endpoint of the source;
the target's other fields are its own. -/
structure LosesNothing (source : Environment) (before : StoredDocument) (after : Environment) :
    Prop where
  slots : ∀ slot, after.packs.filter (fun b => b.slot = slot) =
    (((before.part (·.packs)).find? fun b => b.slot = slot).or
      (source.packs.find? fun b => b.slot = slot)).toList
  extensions : ∀ key, after.extensions.filter (fun b => ExtensionKey.fromBinding b = key) =
    (((before.part (·.extensions)).find? fun b => ExtensionKey.fromBinding b = key).or
      (source.extensions.find? fun b => ExtensionKey.fromBinding b = key)).toList
  endpoints : ∀ endpoint ∈ source.messagingEndpoints,
    endpoint.endpointId ∈ after.messagingEndpoints.map (·.endpointId)
  frame : ∀ own, before = .readable own →
    after = { own with packs := after.packs, extensions := after.extensions }

/-- The root after a migration: the target holds everything, and applying again changes
nothing. -/
def Migrated (ext : Externals) (target : EnvId) (source : Environment) (before : StoredDocument)
    (root : MigrateRoot) : Prop :=
  (∃ after, root.target = .readable after ∧ LosesNothing source before after) ∧
    ∀ call, (apply ext target call root).2 = root

theorem Base.distinct {ext : Externals} {target : EnvId} {source base : Environment}
    {stored : StoredDocument} (based : Base ext target source stored base) :
    (base.packs.map (·.slot)).Nodup ∧
      (base.extensions.map ExtensionKey.fromBinding).Nodup := by
  cases based with
  | own checked =>
      unfold checkDocument at checked
      split at checked
      · cases checked
      · have valid := mapError_ok checked
        refine ⟨Environment.distinct_slots valid, ?_⟩
        have keys := (Environment.distinct_extensions valid).map
          (f := fun pair => ExtensionKey.mk pair.1 pair.2)
          (fun a b same => Prod.ext (congrArg (·.kindPath) same) (congrArg (·.instanceId) same))
        rw [List.map_map] at keys
        exact keys
  | fresh => exact ⟨List.nodup_nil, List.nodup_nil⟩

theorem Base.parts {ext : Externals} {target : EnvId} {source base : Environment}
    {stored : StoredDocument} (based : Base ext target source stored base) :
    base.packs = stored.part (·.packs) ∧ base.extensions = stored.part (·.extensions) ∧
      base.messagingEndpoints = stored.part (·.messagingEndpoints) := by
  cases based with
  | own checked => exact ⟨rfl, rfl, rfl⟩
  | fresh => exact ⟨rfl, rfl, rfl⟩

theorem filled_losesNothing {ext : Externals} {target : EnvId} {source base : Environment}
    {stored : StoredDocument} (based : Base ext target source stored base) :
    LosesNothing source stored (filled base source) ↔
      ∀ endpoint ∈ source.messagingEndpoints,
        endpoint.endpointId ∈ (stored.part (·.messagingEndpoints)).map (·.endpointId) := by
  obtain ⟨packs, extensions, endpoints⟩ := based.parts
  obtain ⟨slots, keys⟩ := based.distinct
  constructor
  · intro kept
    rw [← endpoints]
    exact kept.endpoints
  · intro known
    refine ⟨?_, ?_, ?_, ?_⟩
    · intro slot
      rw [← packs]
      exact filter_fill slots source.packs slot
    · intro key
      rw [← extensions]
      exact filter_fill keys source.extensions key
    · rw [← endpoints] at known
      exact known
    · rintro own rfl
      cases based
      rfl

/-- However often earlier calls were cut, a source loses nothing in a migration exactly
where the target knew its messaging endpoints before. -/
theorem migrated_iff {ext : Externals} {target : EnvId} {start : MigrateRoot}
    {source : Environment} (held : start.source = .readable source)
    {earlier : List MigrateCall} {call : MigrateCall}
    (succeeded : (apply ext target call ((applies ext target).run start earlier)).1.isOk = true) :
    Migrated ext target source start.target ((applies ext target).run start (earlier ++ [call])) ↔
      ∀ endpoint ∈ source.messagingEndpoints,
        endpoint.endpointId ∈ (start.target.part (·.messagingEndpoints)).map (·.endpointId) := by
  obtain ⟨gone, report, merged, merge, target_⟩ :=
    stage_succeeded (stage_run held earlier) succeeded
  have final : (applies ext target).run start (earlier ++ [call]) =
      (apply ext target call ((applies ext target).run start earlier)).2 :=
    (applies ext target).run_append start earlier [call]
  obtain ⟨base, based, rfl, -⟩ := mergeSource_ok merge
  rw [← filled_losesNothing based, final]
  constructor
  · rintro ⟨⟨after, there, kept⟩, -⟩
    rw [target_] at there
    cases there
    exact kept
  · intro kept
    exact ⟨⟨_, target_, kept⟩, fun again => apply_without_source gone again⟩

def devEnvironment : Environment :=
  freshEnvironment legacyEnvId "dev" ⟨legacyEnvId, none, none, none, none, none, none⟩
    ⟨false, none⟩ ⟨none, none⟩ ⟨.unknown, none, none⟩

def boundDev : Environment :=
  { devEnvironment with
    packs := [⟨.telemetry, ⟨"greentic.telemetry.otlp", "1.0.0"⟩, ⟨"telemetry"⟩, none, 0, none⟩] }

def chattyDev : Environment :=
  { devEnvironment with
    messagingEndpoints := [⟨⟨SchemaVersion.messagingEndpointV1⟩, legacyEnvId, ⟨3⟩, "bot",
      "messaging-telegram", "Bot", [], none, [], none, 0, 0, 0, "operator"⟩] }

def rootOf (source : Environment) : MigrateRoot := ⟨.readable source, .absent, []⟩

def localId : EnvId := ⟨"local"⟩

/-- A first call is cut between the merge and the rename. -/
def cutCall : MigrateCall := ⟨none, "2026-01-01", .saved⟩

def fullCall : MigrateCall := ⟨none, "2026-01-02", .finished⟩

theorem bindings_survive_cut :
    (apply noExternals localId fullCall
      ((applies noExternals localId).run (rootOf boundDev) [cutCall])).1.isOk = true ∧
    Migrated noExternals localId boundDev .absent
      ((applies noExternals localId).run (rootOf boundDev) ([cutCall] ++ [fullCall])) :=
  have succeeded : (apply noExternals localId fullCall
      ((applies noExternals localId).run (rootOf boundDev) [cutCall])).1.isOk = true := by
    decide
  ⟨succeeded, (migrated_iff rfl succeeded).mpr (by decide)⟩

/-- The check is clean, the migration succeeds, and the endpoint is in the directory that
was renamed away only. -/
theorem endpoint_left_behind :
    (runCheck noExternals localId none (rootOf chattyDev)).clean = true ∧
    (apply noExternals localId fullCall (rootOf chattyDev)).1.isOk = true ∧
    ¬ Migrated noExternals localId chattyDev .absent
      ((applies noExternals localId).run (rootOf chattyDev) [fullCall]) := by
  refine ⟨by decide, by decide, ?_⟩
  rintro ⟨⟨after, there, kept⟩, -⟩
  have none_ : ((applies noExternals localId).run (rootOf chattyDev) [fullCall]).target.part
      (·.messagingEndpoints) = [] := by decide
  have held := kept.endpoints _ List.mem_cons_self
  rw [there] at none_
  rw [show after.messagingEndpoints = [] from none_] at held
  cases held

end GreenticDeployer.Local.MigrateDev
