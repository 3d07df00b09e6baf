import GreenticDeployer.CloudRun.SorUp

/-!
# Whose a SoR service is

An upsert replaces the service its etag was read from. As long as that read finds
nothing or the run's own service, no run takes a service over, and of the runs
that compete for an absent one a single environment's get it.
-/

set_option maxHeartbeats 200000

namespace GreenticDeployer.CloudRun

open Lib
open Sor (SorUnit SorUnitInputs SorUnitRender CloudRunSorPlacement)

/-- What a run goes by: its stamp, the etag it read for its next upsert, and the services
it saw or made its own. -/
structure Known where
  stamp : String
  read : Option (SorServiceRef × Option Nat)
  deployed : List SorServiceRef

def Known.own (known : Known) (service : SorServiceRef) : Known :=
  { known with deployed := service :: known.deployed }

def Known.saw (known : Known) (service : SorServiceRef) :
    Except SorTargetError (Option SorServiceStatus) → Known
  | .ok (some status) => if status.owner = some known.stamp then known.own service else known
  | _ => known

def Known.readEtag (known : Known) (service : SorServiceRef) :
    Except SorTargetError (Option SorServiceStatus) → Known
  | .ok found => { known with read := some (service, found.map fun status => status.etag) }
  | .error _ => known

def Known.wrote (known : Known) (service : SorServiceRef) : Except SorTargetError Unit → Known
  | .ok _ => known.own service
  | .error _ => known

def learnBringUp : Known → (call : SorCall) → call.Reply → Known
  | known, .getSorService service, reply => known.saw service reply
  | known, .etagOf spec, reply => known.readEtag spec.service reply
  | known, .upsertSorService spec _, reply => known.wrote spec.service reply
  | known, _, _ => known

/-- The read for an upsert's etag finds no service of another environment. -/
def ReadsOwn (_ : SorAnswers) (project : SorProject) : SorCall → Prop
  | .etagOf spec => ∀ live ∈ project.live spec.service, live.owner = some spec.labels.owner
  | _ => True

instance (answers : SorAnswers) (project : SorProject) :
    ∀ call : SorCall, Decidable (ReadsOwn answers project call)
  | .etagOf spec => inferInstanceAs (Decidable (∀ live ∈ project.live spec.service, _))
  | .getSorService _ | .upsertSorService _ _ | .setSorInvokerPublic _
  | .grantArtifactRegistryReader _ _ | .ensureSecret _ _ | .addSecretVersion _ _
  | .grantSecretAccessor _ _ => .isTrue trivial

section System

variable (digests : Digests)

/-- Runs of any environments on one project. A restart cuts all that are in flight. -/
def bringUpRuns : Interleaving SorProject BringUp SorCall SorCall.Reply Known
    (Except SorUpError SorUpOutcome) SorAnswers Unit where
  exec := SorProject.exec
  reset := fun project _ => project
  start := fun run => ⟨run.stamp digests, none, []⟩
  body := fun run => (bringUp digests run).run
  learn := learnBringUp

abbrev UpAction := PoolAction BringUp SorAnswers Unit

def bringingUp := (bringUpRuns digests).system fun _ _ => True

def bringingUpOwn := (bringUpRuns digests).system (Interleaving.OnCalls ReadsOwn)

instance (pool) (action) : Decidable ((bringingUpOwn digests).allowed pool action) :=
  inferInstanceAs (Decidable (Interleaving.OnCalls ReadsOwn pool action))

end System

section Calls

variable {project : SorProject} {spec : SorServiceSpec} {etag : Option Nat}

def SorProject.DeployedBy (project : SorProject) (service : SorServiceRef) (stamp : String) : Prop :=
  ∃ upsert ∈ project.accepted, upsert.spec.service = service ∧ upsert.spec.labels.owner = stamp

theorem refuses_none (accepts : project.refuses spec etag = none) :
    (project.live spec.service).map (·.etag) = etag := by
  unfold SorProject.refuses at accepts
  cases found : project.live spec.service with
  | none =>
      rw [found] at accepts
      cases etag with
      | none => rfl
      | some sent => cases accepts
  | some live =>
      rw [found] at accepts
      cases etag with
      | none => cases accepts
      | some sent =>
          by_cases same : live.etag = sent
          · exact congrArg some same
          · simp only [if_neg same] at accepts
            cases accepts

/-- A call leaves the services as they were, or is an upsert that is accepted. -/
inductive Effect (project : SorProject) (call : SorCall) (after : SorProject) : Prop
  | none (live : after.live = project.live) (counter : after.etagCounter = project.etagCounter)
      (accepted : after.accepted = project.accepted)
  | deployed (spec : SorServiceSpec) (etag : Option Nat)
      (made : call = .upsertSorService spec etag) (accepts : project.refuses spec etag = none)
      (deployed : after = project.deploy spec)

theorem Effect.refl (project : SorProject) (call : SorCall) : Effect project call project :=
  .none rfl rfl rfl

theorem Effect.wrote {call : SorCall} {after : SorProject} {α : Type}
    (effect : Effect project call after) (answers : SorAnswers) (value : α) :
    Effect project call (project.wrote answers value after).2 := by
  unfold SorProject.wrote
  cases answers.turn.effective with
  | false => exact .refl project call
  | true => exact effect

theorem exec_effect (answers : SorAnswers) (project : SorProject) (call : SorCall) :
    Effect project call (SorProject.exec answers project call).2 := by
  cases call with
  | upsertSorService spec etag =>
      simp only [SorProject.exec]
      cases refused : project.refuses spec etag with
      | some error => exact .refl project _
      | none => exact Effect.wrote (.deployed spec etag rfl refused rfl) answers ()
  | ensureSecret name owner =>
      have ensured : Effect project (.ensureSecret name owner) (project.ensured name owner).2 := by
        unfold SorProject.ensured
        cases project.secrets name with
        | none => exact .none rfl rfl rfl
        | some _ => exact .refl project _
      exact ensured.wrote answers (project.ensured name owner).1
  | addSecretVersion name value =>
      simp only [SorProject.exec]
      cases project.secrets name with
      | none => exact .refl project _
      | some secret =>
          have put : Effect project (.addSecretVersion name value)
              (project.putSecret name { secret with versions := secret.versions ++ [value] }) :=
            .none rfl rfl rfl
          exact put.wrote answers (toString (secret.versions.length + 1))
  | _ => exact .refl project _

end Calls

section Protocol

variable {digests : Digests} {run : BringUp} {known : Known} {α : Type}

/-- An upsert sends the etag of the run's latest read of that service, and stamps the run
as the owner. -/
def MayUpsert (known : Known) : SorCall → Prop
  | .etagOf spec => spec.labels.owner = known.stamp
  | .upsertSorService spec etag =>
    known.read = some (spec.service, etag) ∧ spec.labels.owner = known.stamp
  | _ => True

/-- A run forgets no service it saw or made its own. -/
structure Grown (known later : Known) : Prop where
  stamp : later.stamp = known.stamp
  deployed : known.deployed ⊆ later.deployed

theorem Grown.refl (known : Known) : Grown known known := ⟨rfl, List.Subset.refl _⟩

theorem Grown.trans {first second third : Known} (before : Grown first second)
    (after : Grown second third) : Grown first third :=
  ⟨after.stamp.trans before.stamp, List.Subset.trans before.deployed after.deployed⟩

theorem grown_own (known : Known) (service : SorServiceRef) : Grown known (known.own service) :=
  ⟨rfl, List.subset_cons_self service _⟩

theorem grown_saw (known : Known) (service : SorServiceRef)
    (reply : Except SorTargetError (Option SorServiceStatus)) :
    Grown known (known.saw service reply) := by
  rcases reply with _ | _ | status
  · exact .refl known
  · exact .refl known
  · simp only [Known.saw]
    split
    · exact grown_own known service
    · exact .refl known

theorem grown_readEtag (known : Known) (service : SorServiceRef)
    (reply : Except SorTargetError (Option SorServiceStatus)) :
    Grown known (known.readEtag service reply) := by
  cases reply with
  | error _ => exact .refl known
  | ok _ => exact ⟨rfl, List.Subset.refl _⟩

theorem grown_wrote (known : Known) (service : SorServiceRef) (reply : Except SorTargetError Unit) :
    Grown known (known.wrote service reply) := by
  cases reply with
  | error _ => exact .refl known
  | ok _ => exact grown_own known service

abbrev ObeysUp (post : Known → Except SorUpError α → Prop) (known : Known)
    (program : BringingUp α) : Prop :=
  program.run.Obeys MayUpsert learnBringUp post known

/-- After a program that returns, these services are seen or made the run's own. -/
def Deploys (services : List SorServiceRef) (known later : Known) (outcome : Except SorUpError α) :
    Prop :=
  Grown known later ∧ ∀ result, outcome = .ok result → services ⊆ later.deployed

theorem Deploys.failed {β : Type} {services more : List SorServiceRef} {later : Known}
    {error : SorUpError} (deploys : Deploys services known later (.error error : Except _ α)) :
    Deploys more known later (.error error : Except _ β) :=
  ⟨deploys.1, fun _ returned => by cases returned⟩

theorem Deploys.andThen {β : Type} {services more : List SorServiceRef} {program : BringingUp α}
    {f : α → BringingUp β} (first : ObeysUp (Deploys services known) known program)
    (rest : ∀ k a, Grown known k → services ⊆ k.deployed → ObeysUp (Deploys more k) k (f a)) :
    ObeysUp (Deploys (services ++ more) known) known (program >>= f) := by
  refine Program.Obeys.andThen first (fun _ _ failed => failed.failed) fun k a deploys => ?_
  have had := deploys.2 a rfl
  refine (rest k a deploys.1 had).mono fun later outcome further => ⟨deploys.1.trans further.1, ?_⟩
  intro result returned
  exact List.append_subset.mpr
    ⟨List.Subset.trans had further.1.deployed, further.2 result returned⟩

theorem deploys_lift (outcome : Except SorUpError α) :
    ObeysUp (Deploys [] known) known (Program.lift outcome : BringingUp α) :=
  ⟨.refl known, fun _ _ => List.nil_subset _⟩

theorem deploys_ask {call : SorCall} {sort : call.Reply → Except SorUpError α}
    (may : MayUpsert known call) (grows : ∀ reply, Grown known (learnBringUp known call reply)) :
    ObeysUp (Deploys [] known) known (Program.ask call sort) :=
  ⟨may, fun reply => ⟨grows reply, fun _ _ => List.nil_subset _⟩⟩

theorem addVersion_obeys (name value : String) :
    ObeysUp (Deploys [] known) known (addVersion name value) :=
  deploys_ask trivial fun _ => .refl known

theorem addOptionalVersion_obeys (name : String) (value : Option String) :
    ObeysUp (Deploys [] known) known (addOptionalVersion name value) := by
  cases value with
  | none => exact deploys_lift (.ok none)
  | some value =>
      exact Deploys.andThen (addVersion_obeys name value) fun _ version _ _ =>
        deploys_lift (.ok (some version))

theorem stageInputs_obeys (unit : PlacedSorUnit) :
    ObeysUp (Deploys [] known) known (stageInputs digests run unit) := by
  have ensures : ObeysUp (Deploys [] known) known
      (Program.ask (.ensureSecret unit.placement.secret (run.stamp digests)) provider) :=
    deploys_ask trivial fun _ => .refl known
  refine Deploys.andThen ensures fun k ensured _ _ => ?_
  refine Deploys.andThen (deploys_lift _) fun k _ _ _ => ?_
  refine Deploys.andThen (addVersion_obeys _ _) fun k answers _ _ => ?_
  refine Deploys.andThen (addVersion_obeys _ _) fun k postgresUrl _ _ => ?_
  refine Deploys.andThen (addVersion_obeys _ _) fun k sharedSecret _ _ => ?_
  refine Deploys.andThen (addOptionalVersion_obeys _ _) fun k postgresCa _ _ => ?_
  have grants : ObeysUp (Deploys [] k) k (Program.ask
      (.grantSecretAccessor unit.placement.secret run.runtimeServiceAccount) provider) :=
    deploys_ask trivial fun _ => .refl k
  exact Deploys.andThen grants fun k _ _ _ => deploys_lift (.ok _)

theorem grantPackRead_obeys (unit : SorUnit) :
    ObeysUp (Deploys [] known) known (grantPackRead run unit) := by
  unfold grantPackRead
  cases arRepository unit.packRef with
  | none => exact deploys_lift (.ok [])
  | some repo => exact deploys_ask trivial fun _ => .refl known

/-- An upsert sends the etag its own read returned. -/
theorem upsertOnce_obeys {spec : SorServiceSpec} (stamped : spec.labels.owner = known.stamp) :
    ObeysUp (fun k outcome => Grown known k ∧
      (outcome = .ok true → spec.service ∈ k.deployed)) known (upsertOnce spec) := by
  refine ⟨stamped, fun reply => ?_⟩
  cases reply with
  | error e => exact ⟨.refl known, nofun⟩
  | ok found =>
      refine ⟨⟨rfl, stamped⟩, fun wrote => ?_⟩
      have grown : Grown known (known.readEtag spec.service (.ok found)) := grown_readEtag known _ _
      refine ⟨grown.trans (grown_wrote _ spec.service wrote), fun accepted => ?_⟩
      cases wrote with
      | ok _ => exact List.mem_cons_self
      | error error => cases error <;> cases accepted

theorem upsert_obeys {spec : SorServiceSpec} (stamped : spec.labels.owner = known.stamp)
    (retries : Nat) :
    ObeysUp (Deploys [spec.service] known) known (upsert spec retries) := by
  induction retries generalizing known with
  | zero =>
      refine Program.Obeys.andThen (upsertOnce_obeys stamped)
        (fun _ _ failed => ⟨failed.1, nofun⟩) ?_
      intro k accepted tried
      refine ⟨tried.1, fun result returned => ?_⟩
      cases accepted with
      | false => cases returned
      | true => exact by simpa using tried.2 rfl
  | succ retries ih =>
      refine Program.Obeys.andThen (upsertOnce_obeys stamped)
        (fun _ _ failed => ⟨failed.1, nofun⟩) ?_
      intro k accepted tried
      cases accepted with
      | true => exact ⟨tried.1, fun _ _ => by simpa using tried.2 rfl⟩
      | false =>
          have again := ih (stamped.trans tried.1.stamp.symm)
          exact again.mono fun later outcome deploys => ⟨tried.1.trans deploys.1, deploys.2⟩

theorem deployUnit_obeys (unit : PlacedSorUnit) (intent : String)
    (own : known.stamp = run.stamp digests) :
    ObeysUp (Deploys [unit.service] known) known (deployUnit digests run unit intent) := by
  refine Deploys.andThen (stageInputs_obeys unit) fun staging staged staged_grown _ => ?_
  refine Deploys.andThen (grantPackRead_obeys unit.render.unit) fun granting notes granted _ => ?_
  have stamp : granting.stamp = run.stamp digests :=
    (granted.stamp.trans staged_grown.stamp).trans own
  have stamped : (sorServiceSpec unit run.runtimeServiceAccount (run.stamp digests) intent
      staged).labels.owner = granting.stamp := stamp.symm
  exact Deploys.andThen (upsert_obeys stamped maxSorEtagRetries) fun _ _ _ _ =>
    deploys_lift (.ok notes)

theorem convergeLive_obeys (unit : PlacedSorUnit) (intent : String) (live : SorServiceStatus)
    (own : known.stamp = run.stamp digests) :
    ObeysUp (Deploys [unit.service] known) (known.saw unit.service (.ok (some live)))
      (convergeLive digests run unit intent live) := by
  have grown := grown_saw known unit.service (.ok (some live))
  unfold convergeLive
  by_cases foreign : live.owner ≠ some (run.stamp digests)
  · rw [if_pos foreign]
    exact ⟨grown, nofun⟩
  · rw [if_neg foreign]
    by_cases unchanged : live.intent = some intent ∧ live.failed = false
    · rw [if_pos unchanged]
      have ours : live.owner = some known.stamp := (not_not.mp foreign).trans (congrArg some own.symm)
      refine ⟨grown, fun _ _ => ?_⟩
      simp only [Known.saw, if_pos ours, Known.own, List.cons_subset, List.mem_cons_self,
        List.nil_subset, and_self]
    · rw [if_neg unchanged]
      have deploys := deployUnit_obeys unit intent (grown.stamp.trans own)
      exact deploys.mono fun later outcome had => ⟨grown.trans had.1, had.2⟩

theorem converge_obeys (unit : PlacedSorUnit) (own : known.stamp = run.stamp digests) :
    ObeysUp (Deploys [unit.service] known) known (converge digests run unit) := by
  refine ⟨trivial, fun reply => ?_⟩
  rcases reply with error | _ | live
  · exact ⟨.refl known, nofun⟩
  · exact deployUnit_obeys unit _ own
  · exact convergeLive_obeys unit _ live own

theorem convergeAll_obeys (units : List PlacedSorUnit) (own : known.stamp = run.stamp digests) :
    ObeysUp (Deploys (units.map PlacedSorUnit.service) known) known
      (convergeAll digests run units) := by
  induction units generalizing known with
  | nil => exact deploys_lift (.ok [])
  | cons unit rest ih =>
      refine Deploys.andThen (converge_obeys unit own) fun k notes grown _ => ?_
      have later := ih (grown.stamp.trans own)
      refine Program.Obeys.andThen later (fun _ _ failed => failed.failed) fun _ more had => ?_
      exact ⟨had.1, fun _ _ => had.2 more rfl⟩

theorem awaited_obeys (service : SorServiceRef) :
    ObeysUp (Deploys [] known) known (awaited service) := by
  have looks : ObeysUp (Deploys [] known) known
      (Program.ask (.getSorService service) provider) :=
    deploys_ask trivial fun reply => grown_saw known service reply
  exact Deploys.andThen looks fun _ _ _ _ => deploys_lift _

theorem waitReady_obeys (service : SorServiceRef) (polls : Nat) :
    ObeysUp (Deploys [] known) known (waitReady service polls) := by
  induction polls generalizing known with
  | zero =>
      refine Deploys.andThen (awaited_obeys service) fun k status _ _ => ?_
      cases status.ready with
      | true => exact deploys_lift (.ok status)
      | false => exact deploys_lift (.error _)
  | succ polls ih =>
      refine Deploys.andThen (awaited_obeys service) fun k status _ _ => ?_
      cases status.ready with
      | true => exact deploys_lift (.ok status)
      | false => exact ih

theorem openUnit_obeys (unit : PlacedSorUnit) :
    ObeysUp (Deploys [] known) known (openUnit run unit) := by
  refine Deploys.andThen (waitReady_obeys unit.service _) fun k status _ _ => ?_
  have opens : ObeysUp (Deploys [] k) k
      (Program.ask (.setSorInvokerPublic unit.service) provider) :=
    deploys_ask trivial fun _ => .refl k
  refine Deploys.andThen opens fun _ _ _ _ => ?_
  exact Deploys.andThen (deploys_lift _) fun _ _ _ _ => deploys_lift (.ok _)

theorem openAll_obeys (units : List PlacedSorUnit) :
    ObeysUp (Deploys [] known) known (openAll run units) := by
  induction units generalizing known with
  | nil => exact deploys_lift (.ok [])
  | cons unit rest ih =>
      refine Deploys.andThen (openUnit_obeys unit) fun _ opened _ _ => ?_
      exact Deploys.andThen ih fun _ _ _ _ => deploys_lift (.ok _)

theorem bringUp_obeys (own : known.stamp = run.stamp digests) :
    ObeysUp (Deploys (run.units.map PlacedSorUnit.service) known) known (bringUp digests run) := by
  have runs : ObeysUp (Deploys (run.units.map PlacedSorUnit.service ++ []) known) known
      (bringUp digests run) :=
    Deploys.andThen (convergeAll_obeys run.units own) fun _ notes _ _ =>
      Deploys.andThen (openAll_obeys run.units) fun _ opened _ _ => deploys_lift (.ok _)
  rw [List.append_nil] at runs
  exact runs

end Protocol

/-- What is known of a run in flight. The etag it read is that of no service but its own,
and each service it saw or made its own got there by an upsert of its environment. -/
structure Knows (digests : Digests) (start : SorProject) (run : BringUp) (known : Known)
    (project : SorProject) : Prop where
  stamp : known.stamp = run.stamp digests
  read : ∀ service etag, known.read = some (service, some etag) → etag ≤ project.etagCounter ∧
    ∀ live, project.live service = some live → live.etag = etag → live.owner = some known.stamp
  deployed : ∀ service ∈ known.deployed, start.live service = none →
    project.DeployedBy service known.stamp

/-- No service was taken over, and one that was absent at the start is that of every
environment with an accepted upsert of it. -/
structure Owned (start project : SorProject) : Prop where
  kept : ∀ upsert ∈ project.accepted, ∀ live ∈ upsert.replaced,
    live.owner = some upsert.spec.labels.owner
  claimed : ∀ service live, start.live service = none → project.live service = some live →
    ∃ stamp, live.owner = some stamp ∧ project.DeployedBy service stamp
  one : ∀ service stamp, start.live service = none → project.DeployedBy service stamp →
    ∃ live, project.live service = some live ∧ live.owner = some stamp

section Runs

variable {digests : Digests} {start project after : SorProject} {run : BringUp} {known : Known}
  {spec : SorServiceSpec} {etag : Option Nat} {call : SorCall}

theorem deployedBy_deploy {service : SorServiceRef} {stamp : String} :
    (project.deploy spec).DeployedBy service stamp ↔ project.DeployedBy service stamp ∨
      spec.service = service ∧ spec.labels.owner = stamp := by
  simp only [SorProject.DeployedBy, SorProject.deploy, List.mem_append, List.mem_singleton,
    or_and_right, exists_or, exists_eq_left]

theorem DeployedBy.effect {service : SorServiceRef} {stamp : String}
    (deployed : project.DeployedBy service stamp) (effect : Effect project call after) :
    after.DeployedBy service stamp := by
  cases effect with
  | none live counter accepted =>
      obtain ⟨upsert, member, of⟩ := deployed
      exact ⟨upsert, accepted ▸ member, of⟩
  | deployed spec etag made accepts same =>
      rw [same]
      exact deployedBy_deploy.mpr (.inl deployed)

theorem replaces_own (may : MayUpsert known (.upsertSorService spec etag))
    (knows : Knows digests start run known project) (accepts : project.refuses spec etag = none) :
    ∀ live ∈ project.live spec.service, live.owner = some spec.labels.owner := by
  intro live found
  have sent := refuses_none accepts
  rw [Option.mem_def.mp found] at sent
  have read : known.read = some (spec.service, some live.etag) :=
    may.1.trans (congrArg (fun etag => some (spec.service, etag)) sent.symm)
  rw [may.2]
  exact (knows.read spec.service live.etag read).2 live found rfl

theorem owned_deploy (owned : Owned start project)
    (own : ∀ live ∈ project.live spec.service, live.owner = some spec.labels.owner) :
    Owned start (project.deploy spec) := by
  refine ⟨?_, ?_, ?_⟩
  · intro upsert member live replaced
    rcases List.mem_append.mp member with before | last
    · exact owned.kept upsert before live replaced
    · rw [List.mem_singleton.mp last] at replaced ⊢
      exact own live replaced
  · intro service live absent found
    by_cases same : service = spec.service
    · subst same
      rw [project.deploy_live_self] at found
      cases found
      exact ⟨spec.labels.owner, rfl, deployedBy_deploy.mpr (.inr ⟨rfl, rfl⟩)⟩
    · rw [project.deploy_live_of_ne same] at found
      obtain ⟨stamp, owner, deployed⟩ := owned.claimed service live absent found
      exact ⟨stamp, owner, deployedBy_deploy.mpr (.inl deployed)⟩
  · intro service stamp absent deployed
    by_cases same : service = spec.service
    · subst same
      refine ⟨_, project.deploy_live_self spec, ?_⟩
      rcases deployedBy_deploy.mp deployed with before | ⟨-, owner⟩
      · obtain ⟨live, found, owner⟩ := owned.one _ stamp absent before
        exact (own live found).symm.trans owner
      · exact congrArg some owner
    · rcases deployedBy_deploy.mp deployed with before | ⟨other, -⟩
      · obtain ⟨live, found, owner⟩ := owned.one service stamp absent before
        exact ⟨live, (project.deploy_live_of_ne same).trans found, owner⟩
      · exact absurd other.symm same

theorem owned_effect (owned : Owned start project) (may : MayUpsert known call)
    (knows : Knows digests start run known project) (effect : Effect project call after) :
    Owned start after := by
  cases effect with
  | none live counter accepted =>
      have deployed : ∀ service stamp,
          after.DeployedBy service stamp ↔ project.DeployedBy service stamp := by
        intro service stamp
        rw [SorProject.DeployedBy, SorProject.DeployedBy, accepted]
      refine ⟨accepted ▸ owned.kept, ?_, ?_⟩
      · intro service found absent here
        rw [live] at here
        obtain ⟨stamp, owner, by_it⟩ := owned.claimed service found absent here
        exact ⟨stamp, owner, (deployed service stamp).mpr by_it⟩
      · intro service stamp absent by_it
        rw [live]
        exact owned.one service stamp absent ((deployed service stamp).mp by_it)
  | deployed spec etag made accepts same =>
      subst made same
      exact owned_deploy owned (replaces_own may knows accepts)

/-- A write gives its service an etag that no run has read before. -/
theorem knows_effect (knows : Knows digests start run known project)
    (effect : Effect project call after) : Knows digests start run known after := by
  refine ⟨knows.stamp, ?_, fun service member absent =>
    DeployedBy.effect (knows.deployed service member absent) effect⟩
  cases effect with
  | none live counter accepted =>
      rw [live, counter]
      exact knows.read
  | deployed spec sent made accepts same =>
      intro service etag read
      obtain ⟨bounded, own⟩ := knows.read service etag read
      subst same
      refine ⟨bounded.trans (Nat.le_succ _), fun live found current => ?_⟩
      by_cases here : service = spec.service
      · subst here
        rw [project.deploy_live_self] at found
        cases found
        have fresh : project.etagCounter + 1 = etag := current
        omega
      · rw [project.deploy_live_of_ne here] at found
        exact own live found current

theorem reply_ok {α : Type} {answers : SorAnswers} {value found : α}
    (replied : answers.reply value = .ok found) : answers.turn = .done ∧ found = value := by
  unfold SorAnswers.reply at replied
  cases turn : answers.turn with
  | done =>
      rw [turn] at replied
      cases replied
      exact ⟨rfl, rfl⟩
  | failed _ =>
      rw [turn] at replied
      cases replied

theorem shown_live {answers : SorAnswers} {service : SorServiceRef} {status : SorServiceStatus}
    (shown : answers.reply (project.show_ answers service) = .ok (some status)) :
    project.live service = some status.toLiveSor := by
  have found := (reply_ok shown).2.symm
  unfold SorProject.show_ at found
  obtain ⟨live, here, rfl⟩ := Option.map_eq_some_iff.mp found
  exact here

theorem knows_learned {answers : SorAnswers} (owned : Owned start project)
    (reads : ReadsOwn answers project call) (may : MayUpsert known call)
    (knows : Knows digests start run known project) :
    Knows digests start run (learnBringUp known call (SorProject.exec answers project call).1)
      (SorProject.exec answers project call).2 := by
  have kept := knows_effect knows (exec_effect answers project call)
  cases call with
  | getSorService service =>
      simp only [learnBringUp, SorProject.exec]
      rcases shown : answers.reply (project.show_ answers service) with _ | _ | status
      · exact kept
      · exact kept
      · simp only [Known.saw]
        split
        · next ours =>
          refine ⟨knows.stamp, knows.read, fun other member absent => ?_⟩
          rcases List.mem_cons.mp member with rfl | before
          · obtain ⟨stamp, owner, deployed⟩ := owned.claimed _ _ absent (shown_live shown)
            rw [ours] at owner
            cases owner
            exact deployed
          · exact knows.deployed other before absent
        · exact kept
  | etagOf spec =>
      simp only [learnBringUp, SorProject.exec]
      rcases shown : answers.reply (project.show_ answers spec.service) with _ | _ | status
      · exact kept
      · refine ⟨knows.stamp, fun service etag read => ?_, knows.deployed⟩
        cases read
      · refine ⟨knows.stamp, fun service etag read => ?_, knows.deployed⟩
        have here := shown_live shown
        cases read
        refine ⟨project.given _ _ here, fun live found _ => ?_⟩
        exact (reads live found).trans (congrArg some may)
  | upsertSorService spec etag =>
      simp only [learnBringUp, SorProject.exec] at kept ⊢
      cases refused : project.refuses spec etag with
      | some error => exact knows
      | none =>
          rw [refused] at kept
          simp only [SorProject.wrote] at kept ⊢
          cases replied : answers.reply () with
          | error _ => exact kept
          | ok _ =>
              rw [(reply_ok replied).1] at kept ⊢
              refine ⟨knows.stamp, kept.read, fun service member absent => ?_⟩
              rcases List.mem_cons.mp member with rfl | before
              · exact deployedBy_deploy.mpr (.inr ⟨rfl, may.2⟩)
              · exact kept.deployed service before absent
  | _ => exact kept

def Returned (digests : Digests) (run : BringUp) (known : Known)
    (outcome : Except SorUpError SorUpOutcome) : Prop :=
  Deploys (run.units.map PlacedSorUnit.service) ⟨run.stamp digests, none, []⟩ known outcome

theorem bringUp_rules (digests : Digests) (start : SorProject) :
    (bringUpRuns digests).Rules (Interleaving.OnCalls ReadsOwn) (fun _ => MayUpsert)
      (Returned digests) (Owned start) (Knows digests start) := by
  refine ⟨fun run => bringUp_obeys rfl, ?_, fun _ _ _ owned => owned, ?_, ?_, ?_⟩
  · intro run project _
    refine ⟨rfl, fun service etag read => ?_, fun service member => ?_⟩
    · cases read
    · cases member
  · intro pool index answers task call next _ found program sound
    have acting := sound.acting found program
    exact owned_effect sound.inv acting.1 acting.2 (exec_effect answers pool.shared call)
  · intro pool index answers task call next reads found program sound
    have acting := sound.acting found program
    exact knows_learned sound.inv (reads.call found program) acting.1 acting.2
  · intro pool index answers task call next _ _ _ _ other _ _ knows
    exact knows_effect knows (exec_effect answers pool.shared call)

end Runs

/-- In every interleaving in which the reads for etags find nothing or the run's own, no
accepted upsert replaces a service that is another environment's or nobody's. Of the
environments that compete for an absent service, all accepted upserts are of one, and no run
of another returns. -/
theorem services_are_not_taken_over (digests : Digests) (start : SorProject)
    (fresh : start.accepted = []) (actions : List UpAction)
    (admits : (bringingUpOwn digests).Admits ⟨start, []⟩ actions) :
    let pool := (bringingUpOwn digests).run ⟨start, []⟩ actions
    (∀ upsert ∈ pool.shared.accepted, ∀ live ∈ upsert.replaced,
      live.owner = some upsert.spec.labels.owner) ∧
    ∀ service, start.live service = none → ∀ stamp, pool.shared.DeployedBy service stamp →
      (∀ other, pool.shared.DeployedBy service other → other = stamp) ∧
      ∀ task ∈ pool.tasks, service ∈ task.tag.units.map PlacedSorUnit.service →
        task.tag.stamp digests ≠ stamp → ∀ outcome, task.program ≠ .done (.ok outcome) := by
  have initial : Owned start start := by
    have none : ∀ service stamp, ¬ start.DeployedBy service stamp := by
      rintro service stamp ⟨upsert, member, -⟩
      rw [fresh] at member
      cases member
    refine ⟨fun upsert member => ?_, fun service live absent found => ?_,
      fun service stamp _ deployed => absurd deployed (none service stamp)⟩
    · rw [fresh] at member
      cases member
    · rw [absent] at found
      cases found
  have sound := (bringUpRuns digests).sound_run (bringUp_rules digests start) _ actions admits
    ((bringUpRuns digests).sound_empty initial)
  have alone : ∀ service, start.live service = none → ∀ stamp other,
      ((bringingUpOwn digests).run ⟨start, []⟩ actions).shared.DeployedBy service stamp →
      ((bringingUpOwn digests).run ⟨start, []⟩ actions).shared.DeployedBy service other →
      other = stamp := by
    intro service absent stamp other first second
    obtain ⟨live, found, owner⟩ := sound.inv.one service stamp absent first
    obtain ⟨_, again, owner'⟩ := sound.inv.one service other absent second
    rw [found] at again
    cases again
    exact Option.some.inj (owner'.symm.trans owner)
  refine ⟨sound.inv.kept, fun service absent stamp deployed =>
    ⟨fun other => alone service absent stamp other deployed, ?_⟩⟩
  intro task member declares foreign outcome returned
  have knows := (bringUpRuns digests).known_run (bringUp_rules digests start)
    (fun pool _ answers _ call _ _ _ _ _ _ _ knows =>
      knows_effect knows (exec_effect answers pool.shared call))
    start actions admits initial task member
  have obeyed := sound.obeys task member
  rw [returned] at obeyed
  have ours := knows.deployed service (obeyed.2 outcome rfl declares) absent
  rw [knows.stamp] at ours
  exact foreign (alone service absent stamp _ deployed ours)

def demoDigests : Digests := ⟨id, (·.answers), (·.secret)⟩

def ledgerUnit : SorUnit where
  unitId := "ledger"
  sor := "ledger"
  packRef := "oci://ghcr.io/acme/ledger@sha256:d1"
  image := "ghcr.io/acme/sorx:1"
  tenantId := "acme"
  answersRef := "ledger/answers"
  postgresUrlRef := "ledger/postgres"
  postgresCaRef := none
  sharedSecretRef := "ledger/shared"

def ledgerFor (secretPrefix : String) : PlacedSorUnit where
  render := ⟨ledgerUnit, ⟨secretPrefix, "postgres://db", none, "token"⟩⟩
  placement := ⟨"gtc-sor-ledger", secretPrefix ++ "-sor-ledger", "proj", "europe-west1"⟩

def ledgerRun (envId : String) : BringUp := ⟨envId, "sa@proj", fun _ => 0, [ledgerFor envId]⟩

def nothingDeployed : SorProject := ⟨fun _ => none, 0, fun _ => none, [], nofun⟩

def works : SorAnswers := ⟨.done, .unconfigured, ⟨true, false, some "https://ledger/", none, none⟩⟩

/-- The second environment brings its unit up after the first has found no service. -/
def createAfterCheck : List UpAction :=
  [.arrive (ledgerRun "blue"), .advance 0 works, .arrive (ledgerRun "green")] ++
    List.replicate 10 (.advance 1 works) ++ List.replicate 9 (.advance 0 works)

theorem other_environment_is_replaced :
    let pool := (bringingUp demoDigests).run ⟨nothingDeployed, []⟩ createAfterCheck
    ¬ (∀ upsert ∈ pool.shared.accepted, ∀ live ∈ upsert.replaced,
      live.owner = some upsert.spec.labels.owner) := by
  decide +kernel

example : ((bringingUp demoDigests).run ⟨nothingDeployed, []⟩ createAfterCheck).shared.accepted.map
    (fun upsert => (upsert.spec.labels.owner, upsert.replaced.map (·.owner))) =
      [("green-green", none), ("blue-blue", some (some "green-green"))] := by
  decide +kernel

/-- The second environment brings its unit up before the first looks. -/
def createBeforeCheck : List UpAction :=
  [.arrive (ledgerRun "blue"), .arrive (ledgerRun "green")] ++
    List.replicate 10 (.advance 1 works) ++ List.replicate 2 (.advance 0 works)

theorem first_environment_keeps_its_service :
    let pool := (bringingUpOwn demoDigests).run ⟨nothingDeployed, []⟩ createBeforeCheck
    (pool.shared.accepted.map fun upsert => upsert.spec.labels.owner) = ["green-green"] ∧
    ∀ upsert ∈ pool.shared.accepted, ∀ live ∈ upsert.replaced,
      live.owner = some upsert.spec.labels.owner :=
  ⟨by decide +kernel, (services_are_not_taken_over demoDigests nothingDeployed rfl
    createBeforeCheck (by decide +kernel)).1⟩

end GreenticDeployer.CloudRun
