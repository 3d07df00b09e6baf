import GreenticDeployer.Engine.Edits
import GreenticDeployer.K8s.Drains
import GreenticDeployer.K8s.Sweep

/-!
# What a sweep deletes

What a sweep loaded under the lock is what is stored until it lets go of it, and
an object it deletes carries at that moment the labels it was found by. Each
listed object is reported once.
-/

set_option maxHeartbeats 200000

namespace GreenticDeployer.K8s

open Spec Engine Lib
open Sor (ObjectRef)

/-- What an operation goes by: whether it holds the lock, what it loaded under it,
and what it was shown of the cluster. -/
structure Known where
  held : Bool
  loaded : Option Environment
  listed : List LabeledObject

def Known.nothing : Known := ⟨false, none, []⟩

def learnSweep : Known → (call : SweepCall) → call.Reply → Known
  | known, .lock, reply => if reply.isSome then { known with held := true, loaded := none } else known
  | known, .unlock, _ => { known with held := false, loaded := none }
  | known, .load, reply => if known.held then { known with loaded := reply } else known
  | known, .list _ _, reply => { known with listed := reply.getD [] }
  | known, _, _ => known

section System

variable (serde : SerdeJson) (ext : Externals) (parseUlid : String → Option Ulid)
  (operator : Operator)

/-- Operations of any number of operators of one store. A restart cuts all that are in
flight. -/
def fleetOperations : Interleaving Fleet FleetOperation SweepCall SweepCall.Reply Known
    (Except SweepError (Option SweepReport)) Hands Unit where
  exec := Fleet.exec serde ext
  reset := fun fleet _ => fleet
  start := fun _ => .nothing
  body := fun operation => (operation.body parseUlid operator).run
  learn := learnSweep

abbrev FleetTask := Task FleetOperation SweepCall SweepCall.Reply Known
  (Except SweepError (Option SweepReport))

abbrev FleetAction := PoolAction FleetOperation Hands Unit

/-- The environment lock: it is taken, and the store written, while nobody holds it. -/
def Excludes (tasks : List FleetTask) (_ : Hands) (_ : Fleet) : SweepCall → Prop
  | .lock | .runVerb _ => ∀ task ∈ tasks, task.InFlight → task.known.held = false
  | _ => True

def sweeping := (fleetOperations serde ext parseUlid operator).system fun pool =>
  Interleaving.OnCalls (Excludes pool.tasks) pool

instance (tasks : List FleetTask) (hands : Hands) (fleet : Fleet) :
    ∀ call : SweepCall, Decidable (Excludes tasks hands fleet call)
  | .lock => inferInstanceAs (Decidable (∀ task ∈ tasks, task.InFlight → task.known.held = false))
  | .runVerb _ =>
    inferInstanceAs (Decidable (∀ task ∈ tasks, task.InFlight → task.known.held = false))
  | .unlock | .load | .loadRenderAnswers | .reviewAccess _ | .list _ _ | .deleteIfLabeled _ _
  | .apply _ _ | .delete _ | .confirmDrained _ | .rolledOut _ => .isTrue trivial

instance (pool) (action) : Decidable ((sweeping serde ext parseUlid operator).allowed pool action) :=
  inferInstanceAs (Decidable (Interleaving.OnCalls (Excludes pool.tasks) pool action))

end System

def LabeledObject.named (item : LabeledObject) : String × String :=
  (item.object.kind, item.object.name)

def SweptObject.named (swept : SweptObject) : String × String := (swept.kind, swept.name)

def SkippedObject.named (skipped : SkippedObject) : String × String := (skipped.kind, skipped.name)

def SweepReport.named (report : SweepReport) : List (String × String) :=
  report.kept.map SweptObject.named ++ report.unattributed.map SweptObject.named ++
    report.skipped.map SkippedObject.named ++ report.orphans.map SweptObject.named

/-- Each of these objects is reported once, and the orphans are removed if they should be. -/
structure Reports (apply : Bool) (listed : List LabeledObject) (report : SweepReport) : Prop where
  once : report.named.Perm (listed.map LabeledObject.named)
  removed : report.removed = if apply then report.orphans else []

section Reports

variable {apply : Bool} {listed : List LabeledObject} {report : SweepReport} {item : LabeledObject}
  {swept : SweptObject}

theorem SweepReport.named_count (report : SweepReport) (entry : String × String) :
    report.named.count entry = (report.kept.map SweptObject.named).count entry +
      (report.unattributed.map SweptObject.named).count entry +
      (report.skipped.map SkippedObject.named).count entry +
      (report.orphans.map SweptObject.named).count entry := by
  simp only [SweepReport.named, List.count_append]

theorem Reports.push (reports : Reports apply listed report) {next : SweepReport}
    (more : ∀ entry, next.named.count entry = report.named.count entry + [item.named].count entry)
    (removed : next.removed = if apply then next.orphans else []) :
    Reports apply (listed ++ [item]) next := by
  refine ⟨List.perm_iff_count.mpr fun entry => ?_, removed⟩
  have before := List.perm_iff_count.mp reports.once entry
  rw [more, before, List.map_append, List.count_append]
  rfl

theorem Reports.skip (reports : Reports apply listed report) (reason : String) :
    Reports apply (listed ++ [item]) (report.skip item reason) := by
  refine reports.push (fun entry => ?_) reports.removed
  simp only [SweepReport.named_count, SweepReport.skip, List.map_append, List.count_append]
  have same : ([⟨item.object.kind, item.object.name, reason⟩] : List SkippedObject).map
      SkippedObject.named = [item.named] := rfl
  rw [same]
  omega

theorem Reports.keep (reports : Reports apply listed report) (same : swept.named = item.named) :
    Reports apply (listed ++ [item]) { report with kept := report.kept ++ [swept] } := by
  refine reports.push (fun entry => ?_) reports.removed
  simp only [SweepReport.named_count, List.map_append, List.count_append, List.map_cons, same,
    List.map_nil]
  omega

theorem Reports.unattribute (reports : Reports apply listed report)
    (same : swept.named = item.named) :
    Reports apply (listed ++ [item])
      { report with unattributed := report.unattributed ++ [swept] } := by
  refine reports.push (fun entry => ?_) reports.removed
  simp only [SweepReport.named_count, List.map_append, List.count_append, List.map_cons, same,
    List.map_nil]
  omega

theorem Reports.find (reports : Reports false listed report) (same : swept.named = item.named) :
    Reports false (listed ++ [item]) { report with orphans := report.orphans ++ [swept] } := by
  refine reports.push (fun entry => ?_) reports.removed
  simp only [SweepReport.named_count, List.map_append, List.count_append, List.map_cons, same,
    List.map_nil]
  omega

theorem Reports.remove (reports : Reports true listed report) (same : swept.named = item.named) :
    Reports true (listed ++ [item]) { report with
      removed := report.removed ++ [swept], orphans := report.orphans ++ [swept] } := by
  have before : report.removed = report.orphans := reports.removed
  refine reports.push (fun entry => ?_) (by simp [before])
  simp only [SweepReport.named_count, List.map_append, List.count_append, List.map_cons, same,
    List.map_nil]
  omega

theorem Reports.fresh (params : Sor.K8sParams) (env : Environment) (store : String)
    (apply : Bool) : Reports apply [] (.fresh params env store apply) := by
  refine ⟨List.Perm.refl [], ?_⟩
  cases apply <;> rfl

end Reports

def Finding.About (parseUlid : String → Option Ulid) (env : Environment) (item : LabeledObject) :
    Finding → Prop
  | .skipped _ => True
  | .kept swept | .unattributed swept => swept.named = item.named
  | .orphan swept rawRevision => swept.named = item.named ∧
      ∃ ulid, parseUlid rawRevision = some ulid ∧
        (⟨ulid⟩ : RevisionId) ∉ env.revisions.map (·.revisionId)

theorem classifyRevision_about (parseUlid : String → Option Ulid) (env : Environment)
    (store : String) (item : LabeledObject) (rawRevision : String) :
    (classifyRevision parseUlid env store item rawRevision).About parseUlid env item := by
  unfold classifyRevision
  cases parsed : parseUlid rawRevision with
  | none => trivial
  | some ulid =>
      by_cases stored : (⟨ulid⟩ : RevisionId) ∈ env.revisions.map (·.revisionId)
      · simp only [if_pos stored]
        rfl
      · simp only [if_neg stored, attributeOrphan]
        cases label item.labels storeLabel with
        | none => rfl
        | some other =>
            by_cases foreign : other ≠ store
            · simp only [if_pos foreign]
              trivial
            · simp only [if_neg foreign]
              exact ⟨rfl, ulid, parsed, stored⟩

theorem classify_about (parseUlid : String → Option Ulid) (env : Environment) (store : String)
    (item : LabeledObject) : (classify parseUlid env store item).About parseUlid env item := by
  unfold classify
  by_cases worker : ¬ carriesWorkerLabels env item.labels
  · rw [if_pos worker]
    trivial
  · rw [if_neg worker]
    by_cases other : item.object.kind ≠ "Deployment" ∧ item.object.kind ≠ "Service"
    · rw [if_pos other]
      trivial
    · rw [if_neg other]
      cases label item.labels revisionLabel with
      | none => trivial
      | some rawRevision => exact classifyRevision_about parseUlid env store item rawRevision

section Protocol

variable (parseUlid : String → Option Ulid) (operator : Operator)

/-- A sweep deletes by the labels of an orphan of what it loaded under the lock; the
other operations delete nothing by labels. -/
def MaySweep : FleetOperation → Known → SweepCall → Prop
  | operation, known, .deleteIfLabeled _ labels => operation = .sweep true ∧
      ∃ env ∈ known.loaded, ∃ store ∈ operator.store, ∃ rawRevision ulid,
        parseUlid rawRevision = some ulid ∧
        (⟨ulid⟩ : RevisionId) ∉ env.revisions.map (·.revisionId) ∧
        labels = ownership env store rawRevision
  | _, _, _ => True

def Swept (operation : FleetOperation) (known : Known)
    (outcome : Except SweepError (Option SweepReport)) : Prop :=
  ∀ apply report, operation = .sweep apply → outcome = .ok (some report) →
    Reports apply known.listed report

/-- What is known of a sweep in flight: what it loaded under the lock is stored still. -/
def StaysStored (_ : FleetOperation) (known : Known) (fleet : Fleet) : Prop :=
  (∀ env ∈ known.loaded, fleet.env = env) ∧ (known.held = false → known.loaded = none)

variable {parseUlid operator} {operation : FleetOperation} {known : Known} {α : Type}

abbrev ObeysSweep (parseUlid : String → Option Ulid) (operator : Operator)
    (operation : FleetOperation) (post : Known → Except SweepError α → Prop) (known : Known)
    (program : Sweeping α) : Prop :=
  program.run.Obeys (MaySweep parseUlid operator operation) learnSweep post known

/-- With the same knowledge after as before. -/
theorem removeOrphan_obeys {env : Environment} {store rawRevision : String} {ulid : Ulid}
    (loaded : known.loaded = some env) (own : operator.store = some store)
    (parsed : parseUlid rawRevision = some ulid)
    (gone : (⟨ulid⟩ : RevisionId) ∉ env.revisions.map (·.revisionId)) {item : LabeledObject}
    {swept : SweptObject} (same : swept.named = item.named) {done : List LabeledObject}
    {report : SweepReport} (reports : Reports true done report) :
    ObeysSweep parseUlid operator (.sweep true) (fun k outcome => k = known ∧
        ∀ next, outcome = .ok next → Reports true (done ++ [item]) next) known
      (removeOrphan env store item swept rawRevision report) := by
  refine ⟨⟨rfl, env, loaded, store, own, rawRevision, ulid, parsed, gone, rfl⟩, fun reply => ?_⟩
  cases reply with
  | none => exact ⟨rfl, nofun⟩
  | some deleted =>
      cases deleted with
      | true =>
          refine ⟨rfl, fun next returned => ?_⟩
          cases returned
          exact reports.remove same
      | false =>
          refine ⟨rfl, fun next returned => ?_⟩
          cases returned
          exact reports.skip _

theorem sweepItem_obeys {env : Environment} {store : String} {apply : Bool}
    (loaded : apply = true → known.loaded = some env) (own : operator.store = some store)
    {item : LabeledObject} {done : List LabeledObject} {report : SweepReport}
    (reports : Reports apply done report) :
    ObeysSweep parseUlid operator (.sweep apply) (fun k outcome => k = known ∧
        ∀ next, outcome = .ok next → Reports apply (done ++ [item]) next) known
      (sweepItem parseUlid env store apply item report) := by
  have about := classify_about parseUlid env store item
  unfold sweepItem
  cases found : classify parseUlid env store item with
  | skipped reason =>
      refine ⟨rfl, fun next returned => ?_⟩
      cases returned
      exact reports.skip reason
  | kept swept =>
      rw [found] at about
      refine ⟨rfl, fun next returned => ?_⟩
      cases returned
      exact reports.keep about
  | unattributed swept =>
      rw [found] at about
      refine ⟨rfl, fun next returned => ?_⟩
      cases returned
      exact reports.unattribute about
  | orphan swept rawRevision =>
      rw [found] at about
      obtain ⟨same, ulid, parsed, gone⟩ := about
      cases apply with
      | true => exact removeOrphan_obeys (loaded rfl) own parsed gone same reports
      | false =>
          refine ⟨rfl, fun next returned => ?_⟩
          cases returned
          exact reports.find same

theorem sweepListed_obeys {env : Environment} {store : String} {apply : Bool}
    (loaded : apply = true → known.loaded = some env) (own : operator.store = some store)
    (items done : List LabeledObject) {report : SweepReport} (reports : Reports apply done report) :
    ObeysSweep parseUlid operator (.sweep apply) (fun k outcome => k = known ∧
        ∀ next, outcome = .ok next → Reports apply (done ++ items) next) known
      (sweepListed parseUlid env store apply items report) := by
  induction items generalizing done report with
  | nil =>
      refine ⟨rfl, fun next returned => ?_⟩
      cases returned
      rw [List.append_nil]
      exact reports
  | cons item rest ih =>
      refine Program.Obeys.andThen (sweepItem_obeys loaded own reports)
        (fun _ _ failed => ⟨failed.1, nofun⟩) ?_
      rintro _ next ⟨rfl, stepped⟩
      have onward := ih (done ++ [item]) (stepped next rfl)
      rw [List.append_assoc] at onward
      exact onward

theorem ask_obeys {call : SweepCall} {sort : call.Reply → Except SweepError α}
    (may : MaySweep parseUlid operator operation known call)
    (same : ∀ reply, learnSweep known call reply = known) :
    ObeysSweep parseUlid operator operation (fun k _ => k = known) known
      (Program.ask call sort) :=
  Program.Obeys.ask may same

theorem renderAnswers_obeys :
    ObeysSweep parseUlid operator operation (fun k _ => k = known) known renderAnswers :=
  Program.Obeys.andThen (ask_obeys trivial fun _ => rfl) (fun _ _ same => same)
    fun _ _ same => same

theorem sweepK8s_obeys {env : Environment} {params : Sor.K8sParams} {apply : Bool}
    (loaded : apply = true → known.loaded = some env) :
    ObeysSweep parseUlid operator (.sweep apply)
      (fun k outcome => ∀ report, outcome = .ok report → Reports apply k.listed report) known
      (sweepK8s parseUlid operator env params apply) := by
  refine Program.Obeys.andThen (ask_obeys trivial fun _ => rfl) (fun _ _ _ => nofun) ?_
  rintro k decisions rfl
  cases checked : checkDecisions env params decisions with
  | error e => exact nofun
  | ok _ =>
      cases own : operator.store with
      | none => exact nofun
      | some store =>
          refine ⟨trivial, fun reply => ?_⟩
          cases reply with
          | none => exact nofun
          | some listed =>
              have sweeps : ObeysSweep parseUlid operator (.sweep apply)
                  (fun later outcome => later = { k with listed := listed } ∧
                    ∀ next, outcome = .ok next → Reports apply ([] ++ listed) next)
                  { k with listed := listed } (sweepListed parseUlid env store apply listed
                    (.fresh params env store apply)) := by
                refine sweepListed_obeys ?_ own listed [] (.fresh params env store apply)
                exact loaded
              exact sweeps.mono fun k outcome ended report returned => by
                rw [ended.1]
                exact ended.2 report returned

theorem transact_obeys {body : Sweeping SweepReport}
    (locked : ∀ {k}, k = ⟨true, none, []⟩ → ObeysSweep parseUlid operator (.sweep true)
      (fun k outcome => ∀ report, outcome = .ok report → Reports true k.listed report) k body) :
    ObeysSweep parseUlid operator (.sweep true)
      (fun k outcome => ∀ report, outcome = .ok report → Reports true k.listed report) .nothing
      (transact body) := by
  refine ⟨trivial, fun reply => ?_⟩
  cases reply with
  | none => exact nofun
  | some _ =>
      have ended : ObeysSweep parseUlid operator (.sweep true)
          (fun k outcome => ∀ report, outcome = .ok report → Reports true k.listed report)
          ⟨true, none, []⟩
          (ExceptT.mk (body.run >>= fun outcome => .call .unlock fun _ => .done outcome)) :=
        Program.Obeys.bind (locked rfl) fun k outcome reported => ⟨trivial, fun _ => reported⟩
      exact ended

theorem sweepLocked_obeys (fresh : known = ⟨true, none, []⟩) :
    ObeysSweep parseUlid operator (.sweep true)
      (fun k outcome => ∀ report, outcome = .ok report → Reports true k.listed report) known
      (sweepLocked parseUlid operator) := by
  subst fresh
  refine ⟨trivial, fun reply => ?_⟩
  cases reply with
  | none => exact nofun
  | some env =>
      refine Program.Obeys.andThen renderAnswers_obeys (fun _ _ _ => nofun) ?_
      rintro _ params rfl
      exact sweepK8s_obeys fun _ => rfl

theorem sweepUnlocked_obeys (env : Environment) :
    ObeysSweep parseUlid operator (.sweep false)
      (fun k outcome => ∀ report, outcome = .ok report → Reports false k.listed report) known
      (sweepUnlocked parseUlid operator env) := by
  refine Program.Obeys.andThen renderAnswers_obeys (fun _ _ _ => nofun) ?_
  rintro _ params rfl
  exact sweepK8s_obeys nofun

theorem sweepWith_obeys (apply : Bool) :
    ObeysSweep parseUlid operator (.sweep apply)
      (fun k outcome => ∀ report, outcome = .ok report → Reports apply k.listed report) .nothing
      (sweepWith parseUlid operator apply) := by
  refine Program.Obeys.andThen (ask_obeys trivial fun _ => rfl) (fun _ _ _ => nofun) ?_
  rintro _ env rfl
  cases sweepable : operator.sweepable env with
  | false =>
      rw [if_neg Bool.false_ne_true]
      exact nofun
  | true =>
      rw [if_pos rfl]
      cases apply with
      | false => exact sweepUnlocked_obeys env
      | true => exact transact_obeys fun fresh => sweepLocked_obeys fresh

/-- A call that neither deletes by labels nor takes the lock. -/
def Plain : SweepCall → Prop
  | .deleteIfLabeled _ _ | .lock => False
  | _ => True

theorem plain_ask {call : SweepCall} {sort : call.Reply → Except SweepError α} (plain : Plain call) :
    (Program.ask call sort : Sweeping α).run.Only Plain := ⟨plain, fun _ => trivial⟩

theorem plain_answers : renderAnswers.run.Only Plain :=
  Program.Only.andThen (plain_ask trivial) fun _ => trivial

theorem plain_rollout (deployment : ObjectRef) (polls : Nat) :
    (waitForRollout deployment polls).run.Only Plain := by
  induction polls with
  | zero =>
      refine Program.Only.andThen (plain_ask trivial) fun complete => ?_
      cases complete <;> trivial
  | succ polls ih =>
      refine Program.Only.andThen (plain_ask trivial) fun complete => ?_
      cases complete with
      | true => trivial
      | false => exact ih

theorem plain_warm (revisionId : RevisionId) (polls : Nat) :
    (warmRevision operator revisionId polls).run.Only Plain := by
  refine Program.Only.andThen (plain_ask trivial) fun env =>
    Program.Only.andThen trivial fun revision => Program.Only.andThen plain_answers fun params => ?_
  refine Program.Only.andThen (Program.Only.forM _ fun _ => plain_ask trivial) fun _ => ?_
  exact Program.Only.forM _ fun deployment => plain_rollout deployment polls

theorem plain_archive (revisionId : RevisionId) (force : Bool) :
    (archiveRevision revisionId force).run.Only Plain := by
  refine Program.Only.andThen (plain_ask trivial) fun env =>
    Program.Only.andThen trivial fun revision => Program.Only.andThen plain_answers fun params => ?_
  refine Program.Only.andThen ?_ fun _ => Program.Only.forM _ fun _ => plain_ask trivial
  cases force with
  | true => trivial
  | false => exact plain_ask trivial

theorem plain_obeys {program : Sweeping (Option SweepReport)} (plain : program.run.Only Plain)
    (other : ∀ apply, operation ≠ .sweep apply) :
    ObeysSweep parseUlid operator operation (Swept operation) .nothing program := by
  refine Program.Only.obeys plain ?_ (fun _ _ apply _ same => absurd same (other apply)) _
  intro known call fine
  cases call with
  | deleteIfLabeled object labels => exact fine.elim
  | _ => trivial

theorem operation_obeys (operation : FleetOperation) :
    ObeysSweep parseUlid operator operation (Swept operation) .nothing
      (operation.body parseUlid operator) := by
  cases operation with
  | sweep apply =>
      refine Program.Obeys.andThen (sweepWith_obeys apply) (fun _ _ _ _ _ _ wrong => by cases wrong) ?_
      intro known report reported other named same returned
      cases same
      cases returned
      exact reported report rfl
  | warm revisionId polls =>
      exact plain_obeys (Program.Only.andThen (plain_warm revisionId polls) fun _ => trivial) nofun
  | archive revisionId force =>
      exact plain_obeys (Program.Only.andThen (plain_archive revisionId force) fun _ => trivial)
        nofun
  | verb engineVerb =>
      exact plain_obeys (Program.Only.andThen (plain_ask trivial) fun _ => trivial) nofun

end Protocol

/-- What a sweep may delete: a worker of this environment and this store, of a revision
that the environment stored at that moment does not record. -/
structure Orphaned (parseUlid : String → Option Ulid) (envId : EnvId) (store : Option String)
    (deletion : Deletion) : Prop where
  env : deletion.env.environmentId = envId
  managed : label deletion.labels managedBy.1 = some managedBy.2
  worker : label deletion.labels component.1 = some component.2
  environment : label deletion.labels envLabel = some envId.asStr
  stored : ∃ own ∈ store, label deletion.labels storeLabel = some own
  revision : ∃ rawRevision ulid, label deletion.labels revisionLabel = some rawRevision ∧
    parseUlid rawRevision = some ulid ∧
    (⟨ulid⟩ : RevisionId) ∉ deletion.env.revisions.map (·.revisionId)

structure SweepsOrphans (parseUlid : String → Option Ulid) (envId : EnvId) (store : Option String)
    (fleet : Fleet) : Prop where
  env : fleet.env.environmentId = envId
  swept : ∀ deletion ∈ fleet.swept, Orphaned parseUlid envId store deletion

variable {serde : SerdeJson} {ext : Externals} {parseUlid : String → Option Ulid}
  {operator : Operator} {envId : EnvId}

/-- What a call may do to the store and to what was swept. -/
inductive Effect (serde : SerdeJson) (ext : Externals) (fleet : Fleet) (call : SweepCall)
    (after : Fleet) : Prop
  | none (env : after.env = fleet.env) (swept : after.swept = fleet.swept)
  | verb (engineVerb : Verb) (made : call = .runVerb engineVerb)
      (env : after.env = persist serde ext fleet.env engineVerb)
      (swept : after.swept = fleet.swept)
  | sweep (object : ObjectRef) (wanted live : Labels) (made : call = .deleteIfLabeled object wanted)
      (carries : Carries live wanted) (env : after.env = fleet.env)
      (swept : after.swept = fleet.swept ++ [⟨object, live, fleet.env⟩])

theorem wrote_cases (fleet : Fleet) (turn : Local.Turn) (after : Fleet) :
    (fleet.wrote turn after).2 = fleet ∨ (fleet.wrote turn after).2 = after := by
  unfold Fleet.wrote
  cases turn.effective with
  | false => exact .inl rfl
  | true => exact .inr rfl

variable (serde ext) in
theorem exec_effect (hands : Hands) (fleet : Fleet) (call : SweepCall) :
    Effect serde ext fleet call (Fleet.exec serde ext hands fleet call).2 := by
  cases call with
  | deleteIfLabeled object wanted =>
      simp only [Fleet.exec, Fleet.call, Fleet.deleteIfLabeled]
      cases found : (fleet.changed hands.changes).objects object with
      | none => exact .none rfl rfl
      | some live =>
          by_cases owned : Carries live wanted ∧ hands.lost = false
          · simp only [if_pos owned]
            cases hands.turn.effective with
            | true => exact .sweep object wanted live rfl owned.1 rfl rfl
            | false => exact .none rfl rfl
          · simp only [if_neg owned]
            exact .none rfl rfl
  | apply object labels =>
      simp only [Fleet.exec, Fleet.call]
      split
      · rcases wrote_cases (fleet.changed hands.changes) hands.turn
          ((fleet.changed hands.changes).applied object labels) with same | same
        · rw [same]
          exact .none rfl rfl
        · rw [same]
          exact .none rfl rfl
      · exact .none rfl rfl
  | delete object =>
      simp only [Fleet.exec, Fleet.call]
      rcases wrote_cases (fleet.changed hands.changes) hands.turn
        ((fleet.changed hands.changes).deleted object) with same | same
      · rw [same]
        exact .none rfl rfl
      · rw [same]
        exact .none rfl rfl
  | runVerb engineVerb =>
      simp only [Fleet.exec, Fleet.call]
      rcases wrote_cases (fleet.changed hands.changes) hands.turn
        ((fleet.changed hands.changes).saved
          (persist serde ext (fleet.changed hands.changes).env engineVerb)) with same | same
      · rw [same]
        exact .none rfl rfl
      · rw [same]
        exact .verb engineVerb rfl rfl rfl
  | _ => exact .none rfl rfl

theorem staysStored_exec {tasks : List FleetTask} {hands : Hands} {fleet : Fleet}
    {call : SweepCall} (excludes : Excludes tasks hands fleet call) {task : FleetTask}
    (member : task ∈ tasks) (inFlight : task.InFlight)
    (stays : StaysStored task.tag task.known fleet) :
    StaysStored task.tag task.known (Fleet.exec serde ext hands fleet call).2 := by
  refine ⟨fun env known => ?_, stays.2⟩
  cases exec_effect serde ext hands fleet call with
  | none env swept => exact env.trans (stays.1 _ known)
  | sweep object wanted live made carries env swept => exact env.trans (stays.1 _ known)
  | verb engineVerb made env swept =>
      subst made
      have nothing := stays.2 (excludes task member inFlight)
      rw [nothing] at known
      cases known

theorem staysStored_learned {tasks : List FleetTask} {hands : Hands} {fleet : Fleet}
    {call : SweepCall} (excludes : Excludes tasks hands fleet call) {task : FleetTask}
    (member : task ∈ tasks) (inFlight : task.InFlight)
    (stays : StaysStored task.tag task.known fleet) :
    StaysStored task.tag
      (learnSweep task.known call (Fleet.exec serde ext hands fleet call).1)
      (Fleet.exec serde ext hands fleet call).2 := by
  have kept : StaysStored task.tag task.known (Fleet.exec serde ext hands fleet call).2 :=
    staysStored_exec excludes member inFlight stays
  cases call with
  | lock =>
      simp only [learnSweep]
      split
      · refine ⟨fun env loaded => ?_, fun _ => rfl⟩
        cases loaded
      · exact kept
  | unlock =>
      refine ⟨fun env loaded => ?_, fun _ => rfl⟩
      cases loaded
  | load =>
      simp only [learnSweep]
      cases held : task.known.held with
      | false =>
          rw [if_neg Bool.false_ne_true]
          exact kept
      | true =>
          rw [if_pos rfl]
          refine ⟨fun env loaded => ?_, fun unheld => by simp at unheld⟩
          simp only [Fleet.exec, Fleet.call, Option.mem_def, Option.map_eq_some_iff] at loaded
          obtain ⟨-, -, same⟩ := loaded
          exact same
  | list _ _ => exact kept
  | loadRenderAnswers => exact kept
  | reviewAccess _ => exact kept
  | deleteIfLabeled _ _ => exact kept
  | apply _ _ => exact kept
  | delete _ => exact kept
  | confirmDrained _ => exact kept
  | rolledOut _ => exact kept
  | runVerb _ => exact kept

theorem sweepsOrphans_exec {hands : Hands} {fleet : Fleet} {call : SweepCall}
    {operation : FleetOperation} {known : Known}
    (orphans : SweepsOrphans parseUlid envId operator.store fleet)
    (may : MaySweep parseUlid operator operation known call)
    (stays : StaysStored operation known fleet) :
    SweepsOrphans parseUlid envId operator.store (Fleet.exec serde ext hands fleet call).2 := by
  cases exec_effect serde ext hands fleet call with
  | none env swept =>
      refine ⟨(congrArg (·.environmentId) env).trans orphans.env, ?_⟩
      rw [swept]
      exact orphans.swept
  | verb engineVerb made env swept =>
      refine ⟨?_, ?_⟩
      · rw [env, persist_environmentId]
        exact orphans.env
      · rw [swept]
        exact orphans.swept
  | sweep object wanted live made carries env swept =>
      refine ⟨(congrArg (·.environmentId) env).trans orphans.env, fun deletion member => ?_⟩
      rw [swept] at member
      rcases List.mem_append.mp member with before | last
      · exact orphans.swept deletion before
      · subst made
        obtain ⟨-, loaded, known_env, own, owned, rawRevision, ulid, parsed, gone, rfl⟩ := may
        have same := stays.1 loaded known_env
        subst same
        rw [List.mem_singleton.mp last]
        have carried : ∀ entry ∈ ownership fleet.env own rawRevision,
            label live entry.1 = some entry.2 := carries
        simp only [ownership, List.forall_mem_cons] at carried
        obtain ⟨managed, worker, environment, stored, revision, -⟩ := carried
        refine ⟨orphans.env, managed, worker, ?_, ⟨own, owned, stored⟩,
          rawRevision, ulid, revision, parsed, gone⟩
        rw [← orphans.env]
        exact environment

/-- In every run, whatever anyone does to the cluster, a sweep deletes only workers of this
environment and store whose revision is not stored at that moment. One that returns has
reported every object it was shown once, and removed exactly the orphans it reports, or
none without `--apply`. -/
theorem sweeps_delete_only_orphans (serde : SerdeJson) (ext : Externals)
    (parseUlid : String → Option Ulid) (operator : Operator) (env : Environment)
    (objects : ObjectRef → Option Labels) (actions : List FleetAction)
    (admits : (sweeping serde ext parseUlid operator).Admits ⟨.start env objects, []⟩ actions) :
    let pool := (sweeping serde ext parseUlid operator).run ⟨.start env objects, []⟩ actions
    (∀ deletion ∈ pool.shared.swept,
      Orphaned parseUlid env.environmentId operator.store deletion) ∧
    ∀ task ∈ pool.tasks, ∀ apply report, task.tag = .sweep apply →
      task.program = .done (.ok (some report)) →
      report.named.Perm (task.known.listed.map LabeledObject.named) ∧
        report.removed = if apply then report.orphans else [] := by
  have rules : (fleetOperations serde ext parseUlid operator).Rules
      (fun pool => Interleaving.OnCalls (Excludes pool.tasks) pool)
      (MaySweep parseUlid operator) Swept
      (SweepsOrphans parseUlid env.environmentId operator.store) StaysStored := by
    refine ⟨operation_obeys, ?_, fun _ _ _ held => held, ?_, ?_, ?_⟩
    · intro operation fleet _
      refine ⟨fun env loaded => ?_, fun _ => rfl⟩
      cases loaded
    · intro pool index hands task call next _ found program sound
      have acting := sound.acting found program
      exact sweepsOrphans_exec sound.inv acting.1 acting.2
    · intro pool index hands task call next excludes found program sound
      exact staysStored_learned (excludes.call found program) (List.mem_of_getElem? found)
        ⟨call, next, program⟩ (sound.acting found program).2
    · intro pool index hands task call next excludes found program sound other member inFlight stays
      exact staysStored_exec (excludes.call found program) member inFlight stays
  have initial : SweepsOrphans parseUlid env.environmentId operator.store (.start env objects) := by
    refine ⟨rfl, fun deletion member => ?_⟩
    cases member
  have sound := (fleetOperations serde ext parseUlid operator).sound_run rules _ actions admits
    ((fleetOperations serde ext parseUlid operator).sound_empty initial)
  refine ⟨sound.inv.swept, fun task member apply report sweeps returned => ?_⟩
  have obeyed := sound.obeys task member
  rw [returned] at obeyed
  have reports := obeyed apply report sweeps rfl
  exact ⟨reports.once, reports.removed⟩

def goneId : RevisionId := ⟨9⟩

/-- The only label text there is a revision for. -/
def parseGone (text : String) : Option Ulid := if text = goneId.toString then some 9 else none

def ourStore : Operator := ⟨some "s-a", fun _ => true⟩

def goneWorker (store : String) : LabeledObject :=
  ⟨⟨"apps/v1", "Deployment", some "gtc-local", "gtc-worker-" ++ store⟩,
    ownership stagedOnly store goneId.toString⟩

def twoStores : List LabeledObject := [goneWorker "s-a", goneWorker "s-b"]

def inCluster (items : List LabeledObject) (object : ObjectRef) : Option Labels :=
  (items.find? fun item => item.object = object).map (·.labels)

def handsOff : Hands :=
  ⟨[], .done, some sampleParams, sweepK8sOperations.map fun operation => ⟨operation, true⟩,
    twoStores, true, false⟩

/-- The sweep while another operator drains a revision, before the lock and after. -/
def sweepsAmid : List FleetAction :=
  [.arrive (.sweep true), .advance 0 handsOff, .arrive (.verb (.drainRevision ⟨7⟩)),
    .advance 1 handsOff] ++ List.replicate 7 (.advance 0 handsOff) ++
    [.arrive (.verb (.drainRevision ⟨7⟩)), .advance 2 handsOff]

theorem own_orphan_is_swept :
    let pool := (sweeping firstSplitJson noExternals parseGone ourStore).run
      ⟨.start stagedOnly (inCluster twoStores), []⟩ sweepsAmid
    (pool.shared.swept.map (·.object.name)) = ["gtc-worker-s-a"] ∧
      ∀ deletion ∈ pool.shared.swept,
        Orphaned parseGone stagedOnly.environmentId ourStore.store deletion :=
  ⟨by decide, (sweeps_delete_only_orphans firstSplitJson noExternals parseGone ourStore
    stagedOnly (inCluster twoStores) sweepsAmid (by decide)).1⟩

end GreenticDeployer.K8s
