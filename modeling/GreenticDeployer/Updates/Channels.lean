import GreenticDeployer.Updates.Staging
import Mathlib.Data.List.Nodup

/-!
# Channels that only climb

A plan becomes applied on a channel only above all that were applied there, as
long as the plans kept still show the highest of them. Retention counts the
terminal plans of both channels together, and may drop it.
-/

set_option maxHeartbeats 200000

namespace GreenticDeployer.Updates

open Lib

theorem le_highest {values : List Nat} {n : Nat} (member : n ∈ values) :
    ∃ high, highest values = some high ∧ n ≤ high := by
  induction values with
  | nil => cases member
  | cons first rest ih =>
      cases found : highest rest with
      | none =>
          rcases List.mem_cons.mp member with rfl | later
          · exact ⟨n, by simp [highest, found], Nat.le_refl n⟩
          · obtain ⟨high, known, _⟩ := ih later
            rw [found] at known
            cases known
      | some high =>
          refine ⟨max first high, by simp [highest, found], ?_⟩
          rcases List.mem_cons.mp member with rfl | later
          · omega
          · obtain ⟨_, known, below⟩ := ih later
            rw [found] at known
            cases known
            omega

theorem highest_mem {values : List Nat} {high : Nat} (known : highest values = some high) :
    high ∈ values := by
  induction values generalizing high with
  | nil => cases known
  | cons first rest ih =>
      cases found : highest rest with
      | none =>
          simp only [highest, found, Option.elim, Option.some.injEq] at known
          simp [known]
      | some later =>
          simp only [highest, found, Option.elim, Option.some.injEq] at known
          have member := ih found
          rcases Nat.le_total first later with below | above
          · have same : high = later := by omega
            exact same ▸ List.mem_cons_of_mem _ member
          · have same : high = first := by omega
            simp [same]

theorem mem_appliedOn {records : List StateRecord} {channel : String} {record : StateRecord} :
    record ∈ appliedOn channel records ↔
      record ∈ records ∧ record.stage = .applied ∧ record.plan.envId = channel := by
  simp [appliedOn]

theorem admitPlan_newer {crate : UpdateCrate} (documented : crate.Documented) {plan : UpdatePlan}
    {records : List StateRecord}
    (admitted : admitPlan crate plan (admissionFacts records plan.envId) = .ok ())
    {record : StateRecord} (member : record ∈ records) (applied : record.stage = .applied)
    (channel : record.plan.envId = plan.envId) : record.plan.sequence < plan.sequence := by
  have listed : record.plan.sequence ∈ (appliedOn plan.envId records).map (·.plan.sequence) :=
    List.mem_map.mpr ⟨record, mem_appliedOn.mpr ⟨member, applied, channel⟩, rfl⟩
  obtain ⟨high, known, below⟩ := le_highest listed
  have newer : crate.ensureNotDowngrade plan (some high) = true := by
    by_contra older
    simp [admitPlan, admissionFacts, known, older] at admitted
  have above := documented.newer plan high newer
  omega

/-- The highest applied plan of its channel. -/
def Highest (records : List StateRecord) (record : StateRecord) : Prop :=
  record.stage = .applied ∧ ∀ other ∈ records, other.stage = .applied →
    other.plan.envId = record.plan.envId → other.plan.sequence ≤ record.plan.sequence

instance (records : List StateRecord) (record : StateRecord) :
    Decidable (Highest records record) := inferInstanceAs (Decidable (_ ∧ _))

/-- Of every channel the highest applied plan is among those kept. -/
def KeepsHighest (n : Nat) (records : List StateRecord) : Prop :=
  ∀ record ∈ records, Highest records record → record ∈ retained n records

instance (n : Nat) (records : List StateRecord) : Decidable (KeepsHighest n records) :=
  inferInstanceAs (Decidable (∀ record ∈ records, Highest records record → _))

theorem retained_sublist (n : Nat) (records : List StateRecord) :
    (retained n records).Sublist records := by
  induction records generalizing n with
  | nil => exact List.Sublist.refl []
  | cons record rest ih =>
      unfold retained
      split
      · cases n with
        | zero => exact (ih 0).cons record
        | succ n => exact (ih n).cons_cons record
      · exact (ih n).cons_cons record

theorem exists_highest {records : List StateRecord} {record : StateRecord}
    (member : record ∈ records) (applied : record.stage = .applied) :
    ∃ top ∈ records, Highest records top ∧ top.plan.envId = record.plan.envId ∧
      record.plan.sequence ≤ top.plan.sequence := by
  have own := mem_appliedOn.mpr ⟨member, applied, rfl⟩
  have sequences := List.mem_map_of_mem (f := fun other => other.plan.sequence) own
  obtain ⟨high, known, below⟩ := le_highest sequences
  obtain ⟨top, listed, rfl⟩ := List.mem_map.mp (highest_mem known)
  obtain ⟨kept, stage, channel⟩ := mem_appliedOn.mp listed
  refine ⟨top, kept, ⟨stage, ?_⟩, channel, below⟩
  intro other present reached same
  have listed := mem_appliedOn.mpr ⟨present, reached, same.trans channel⟩
  have sequences := List.mem_map_of_mem (f := fun other => other.plan.sequence) listed
  obtain ⟨_, again, within⟩ := le_highest sequences
  rw [known] at again
  cases again
  exact within

/-- The plans that became applied climb on each channel, the kept ones show how
far, and the one applying is above that. -/
structure Climbing (staging : Staging) : Prop where
  ids : (staging.kept.map (·.plan.planId)).Nodup
  single : ∀ record ∈ staging.kept, ∀ other ∈ staging.kept, record.stage = .applying →
    other.stage = .applying → record.plan.planId = other.plan.planId
  shown : ∀ plan ∈ staging.reached, ∃ record ∈ staging.kept, record.stage = .applied ∧
    record.plan.envId = plan.envId ∧ plan.sequence ≤ record.plan.sequence
  ahead : ∀ record ∈ staging.kept, record.stage = .applying → ∀ plan ∈ staging.reached,
    plan.envId = record.plan.envId → plan.sequence < record.plan.sequence
  climbs : staging.reached.Pairwise fun earlier later =>
    earlier.envId = later.envId → earlier.sequence < later.sequence

variable {crate : UpdateCrate} {staging : Staging} {turn : Turn}

theorem find_some {planId : PlanId} {record : StateRecord}
    (found : staging.find planId = some record) :
    record ∈ staging.kept ∧ record.plan.planId = planId :=
  ⟨List.mem_of_find?_eq_some found, by simpa using List.find?_some found⟩

theorem find_none {planId : PlanId} (missing : staging.find planId = none) :
    ∀ record ∈ staging.kept, record.plan.planId ≠ planId := by
  simpa [Staging.find] using missing

theorem mem_renew {record other : StateRecord} : other ∈ (staging.renew record).kept ↔
    other = record ∨ other ∈ staging.kept ∧ other.plan.planId ≠ record.plan.planId := by
  simp [Staging.renew]

theorem Climbing.unique (climbing : Climbing staging) {record other : StateRecord}
    (member : record ∈ staging.kept) (present : other ∈ staging.kept)
    (same : record.plan.planId = other.plan.planId) : record = other :=
  List.inj_on_of_nodup_map climbing.ids member present same

/-- A plan that goes on above all that were applied on its channel. -/
structure Above (staging : Staging) (record : StateRecord) : Prop where
  newer : ∀ plan ∈ staging.reached, plan.envId = record.plan.envId →
    plan.sequence < record.plan.sequence
  alone : ∀ other ∈ staging.kept, other.stage = .applying →
    other.plan.planId = record.plan.planId

/-- A change of stage, of a plan that was not applied yet. -/
theorem Climbing.renew (climbing : Climbing staging) {record : StateRecord}
    (pending : ∀ other ∈ staging.kept, other.plan.planId = record.plan.planId →
      other.stage ≠ .applied)
    (above : record.stage = .applying ∨ record.stage = .applied → Above staging record) :
    Climbing (staging.renew record) where
  ids := by
    have fewer : (staging.kept.filter fun other => other.plan.planId ≠ record.plan.planId).Sublist
        staging.kept := List.filter_sublist
    refine List.nodup_cons.mpr ⟨?_, climbing.ids.sublist (fewer.map _)⟩
    simp
  single := by
    intro first member second present applying also
    rcases mem_renew.mp member with rfl | ⟨old, apart⟩
    · rcases mem_renew.mp present with rfl | ⟨old, _⟩
      · rfl
      · exact ((above (.inl applying)).alone second old also).symm
    · rcases mem_renew.mp present with rfl | ⟨also', _⟩
      · exact (above (.inl also)).alone first old applying
      · exact climbing.single first old second also' applying also
  shown := by
    intro plan member
    have before : plan ∈ staging.reached ∨ record.stage = .applied ∧ plan = record.plan := by
      by_cases applied : record.stage = .applied
      · simpa [Staging.renew, applied] using member
      · exact .inl (by simpa [Staging.renew, applied] using member)
    rcases before with before | ⟨applied, rfl⟩
    · obtain ⟨shown, kept, applied, channel, below⟩ := climbing.shown plan before
      refine ⟨shown, mem_renew.mpr (.inr ⟨kept, ?_⟩), applied, channel, below⟩
      intro same
      exact pending shown kept same applied
    · exact ⟨record, mem_renew.mpr (.inl rfl), applied, rfl, Nat.le_refl _⟩
  ahead := by
    intro other member applying plan reached channel
    by_cases applied : record.stage = .applied
    · rcases mem_renew.mp member with rfl | ⟨old, apart⟩
      · rw [applied] at applying
        cases applying
      · exact absurd ((above (.inr applied)).alone other old applying) apart
    · have before : plan ∈ staging.reached := by
        simpa [Staging.renew, applied] using reached
      rcases mem_renew.mp member with rfl | ⟨old, _⟩
      · exact (above (.inl applying)).newer plan before channel
      · exact climbing.ahead other old applying plan before channel
  climbs := by
    by_cases applied : record.stage = .applied
    · simp only [Staging.renew, applied, if_true]
      refine List.pairwise_append.mpr ⟨climbing.climbs, List.pairwise_singleton _ _, ?_⟩
      intro earlier member later last channel
      rw [List.mem_singleton.mp last] at channel ⊢
      exact (above (.inr applied)).newer earlier member channel
    · simpa only [Staging.renew, applied, if_false] using climbing.climbs

theorem Climbing.above_reached (climbing : Climbing staging) {plan : UpdatePlan}
    (newer : ∀ record ∈ staging.kept, record.stage = .applied →
      record.plan.envId = plan.envId → record.plan.sequence < plan.sequence) :
    ∀ earlier ∈ staging.reached, earlier.envId = plan.envId → earlier.sequence < plan.sequence := by
  intro earlier member channel
  obtain ⟨record, kept, applied, same, below⟩ := climbing.shown earlier member
  have above := newer record kept applied (same.trans channel)
  omega

theorem Climbing.retained (climbing : Climbing staging) {n : Nat}
    (keeps : KeepsHighest n staging.kept) :
    Climbing { staging with kept := retained n staging.kept } where
  ids := climbing.ids.sublist ((retained_sublist n staging.kept).map _)
  single := fun record member other present =>
    climbing.single record ((retained_sublist n _).subset member) other
      ((retained_sublist n _).subset present)
  shown := by
    intro plan member
    obtain ⟨record, kept, applied, channel, below⟩ := climbing.shown plan member
    obtain ⟨top, listed, highest, same, above⟩ := exists_highest kept applied
    exact ⟨top, keeps top listed highest, highest.1, same.trans channel,
      Nat.le_trans below above⟩
  ahead := fun record member => climbing.ahead record ((retained_sublist n _).subset member)
  climbs := climbing.climbs

/-- Of the verbs' own transitions none is to `applying`. -/
def UpdateCall.Ordinary : UpdateCall → Prop
  | .transition _ target => target ≠ .applying
  | _ => True

/-- A verified plan would be admitted to `applying` over this record. -/
def Admissible (crate : UpdateCrate) (staging : Staging) (verified : UpdatePlan)
    (record : StateRecord) : Prop :=
  record.plan.planId = verified.planId ∧ record.stage = .staged ∧
    (∀ other ∈ staging.kept, other.stage ≠ .applying) ∧
    (admitPlan crate verified (admissionFacts staging.kept record.plan.envId)).isOk = true

instance (crate : UpdateCrate) (staging : Staging) (verified : UpdatePlan)
    (record : StateRecord) : Decidable (Admissible crate staging verified record) :=
  inferInstanceAs (Decidable (_ ∧ _ ∧ _ ∧ _))

/-- The condition on a call: retention keeps the highest applied plan of every
channel, and a plan is admitted to `applying` by its own sequence. -/
def Mindful (crate : UpdateCrate) (staging : Staging) : UpdateCall → Prop
  | .applyRetention keepTerminal => KeepsHighest keepTerminal staging.kept
  | .beginApplyChecked verified => ∀ record ∈ staging.kept,
      Admissible crate staging verified record → record.plan = verified
  | _ => True

instance (crate : UpdateCrate) (staging : Staging) :
    ∀ call : UpdateCall, Decidable (Mindful crate staging call)
  | .applyRetention keepTerminal =>
    inferInstanceAs (Decidable (KeepsHighest keepTerminal staging.kept))
  | .beginApplyChecked verified => inferInstanceAs (Decidable (∀ record ∈ staging.kept,
      Admissible crate staging verified record → record.plan = verified))
  | .load _ | .stage _ | .list | .beginChecked _ | .transition _ _ | .fetch _ | .putArtifact _ _
  | .verifyArtifact _ _ | .planBytes _ | .checkApplyable _ | .snapshotEnvironment
  | .runManifestApply _ | .restoreEnvironment => .isTrue trivial

theorem climbing_commits {α ε : Type} {value : α} {failure : ε} {changed : Staging}
    (before : Climbing staging) (after : Climbing changed) :
    Climbing (commits turn value failure staging changed).2 := by
  unfold commits
  dsimp only
  split
  · exact after
  · exact before

theorem climbing_beginChecked (climbing : Climbing staging) (verified : UpdatePlan) :
    Climbing (beginChecked crate turn staging verified).2 := by
  unfold beginChecked
  cases found : staging.find verified.planId with
  | some record => exact climbing
  | none =>
      have fresh := find_none found
      dsimp only
      split
      · exact climbing
      · refine climbing_commits climbing (climbing.renew ?_ ?_)
        · intro other member same
          exact absurd same (fresh other member)
        · rintro (wrong | wrong) <;> cases wrong

theorem climbing_transition (documented : crate.Documented) (climbing : Climbing staging)
    (planId : PlanId) {target : UpdateStage} (ordinary : target ≠ .applying) :
    Climbing (transition crate turn staging planId target).2 := by
  unfold transition
  cases found : staging.find planId with
  | none => exact climbing
  | some record =>
      obtain ⟨kept, _⟩ := find_some found
      dsimp only
      split
      · rename_i legal
        split
        · refine climbing.renew ?_ ?_
          · intro other member same applied
            have own := climbing.unique member kept same
            rw [own] at applied
            rw [documented.terminal _ _ (by rw [applied]; rfl)] at legal
            cases legal
          · rintro (wrong | reached)
            · exact absurd wrong ordinary
            · have source := documented.applies record.stage (reached ▸ legal)
              exact ⟨climbing.ahead record kept source,
                fun other member applying => climbing.single other member record kept applying source⟩
        · exact climbing
      · exact climbing

theorem climbing_beginApplyChecked (documented : crate.Documented) (climbing : Climbing staging)
    {verified : UpdatePlan}
    (own : ∀ record ∈ staging.kept, Admissible crate staging verified record →
      record.plan = verified) :
    Climbing (beginApplyChecked crate turn staging verified).2 := by
  unfold beginApplyChecked
  cases found : staging.find verified.planId with
  | none => exact climbing
  | some record =>
      obtain ⟨kept, named⟩ := find_some found
      dsimp only
      split
      · rename_i staged
        cases applying : staging.kept.find? fun other => other.stage = .applying with
        | some other => exact climbing
        | none =>
            have none_applying : ∀ other ∈ staging.kept, other.stage ≠ .applying := by
              simpa using applying
            dsimp only
            split
            · exact climbing
            · rename_i admitted
              have same := own record kept
                ⟨named, staged, none_applying, by rw [admitted]; rfl⟩
              rw [same] at admitted
              have newer := climbing.above_reached fun applied member stage channel =>
                admitPlan_newer documented admitted member stage channel
              refine climbing_commits climbing (climbing.renew ?_ ?_)
              · intro other member equal applied
                have record_ := climbing.unique member kept equal
                rw [record_, staged] at applied
                cases applied
              · intro _
                refine ⟨?_, fun other member stage => absurd stage (none_applying other member)⟩
                rw [same]
                exact newer
      · exact climbing

theorem climbing_exec (documented : crate.Documented) (climbing : Climbing staging)
    {call : UpdateCall} (ordinary : call.Ordinary) (mindful : Mindful crate staging call) :
    Climbing (exec crate turn staging call).2 := by
  cases call with
  | beginChecked verified => exact climbing_beginChecked climbing verified
  | transition planId target => exact climbing_transition documented climbing planId ordinary
  | beginApplyChecked verified => exact climbing_beginApplyChecked documented climbing mindful
  | applyRetention keepTerminal =>
      unfold exec
      dsimp only
      split
      · exact climbing.retained mindful
      · exact climbing
  | _ => exact climbing

def OrdinaryCalls {α : Type} (program : Updating α) : Prop :=
  program.run.Only UpdateCall.Ordinary

section Ordinary

variable {α : Type}

theorem ordinary_lift (outcome : Except UpdateError α) :
    OrdinaryCalls (Program.lift outcome : Updating α) := trivial

theorem ordinary_ask (call : UpdateCall) (ordinary : call.Ordinary)
    (sort : call.Reply → Except UpdateError α) :
    OrdinaryCalls (Program.ask call sort : Updating α) :=
  ⟨ordinary, fun _ => trivial⟩

theorem ordinary_attempt (call : UpdateCall) (ordinary : call.Ordinary) (failure : UpdateError)
    (outcome : call.Reply → Option α) : OrdinaryCalls (attempt call failure outcome) :=
  ordinary_ask call ordinary _

theorem ordinary_settle (planId : PlanId) {target : UpdateStage} (ordinary : target ≠ .applying) :
    OrdinaryCalls (settle planId target) :=
  ordinary_ask (.transition planId target) ordinary _

theorem ordinary_orReject (staged : StagedPlan) {program : Updating α}
    (ordinary : OrdinaryCalls program) : OrdinaryCalls (orReject staged program) :=
  Program.Only.rescue ordinary fun _ =>
    Program.Only.andThen (ordinary_settle _ (by decide)) fun _ => trivial

theorem ordinary_advanceToStaged (staged : StagedPlan) : OrdinaryCalls (advanceToStaged staged) := by
  have promoted : ∀ source target stage, target ≠ .applying →
      OrdinaryCalls (promote staged source target stage) := by
    intro source target stage ordinary
    unfold promote
    split
    · exact ordinary_attempt (.transition _ target) ordinary _ _
    · exact trivial
  refine Program.Only.andThen (ordinary_attempt (.stage _) trivial _ _) fun stage => ?_
  refine Program.Only.andThen (promoted _ _ _ (by decide)) fun stage => ?_
  exact promoted _ _ _ (by decide)

theorem ordinary_downloadAndStage (staged : StagedPlan) (artifacts : List PlanArtifact) :
    OrdinaryCalls (downloadAndStage staged artifacts) := by
  refine Program.Only.andThen (ordinary_attempt (.stage _) trivial _ _) fun stage => ?_
  split
  · exact trivial
  · have each : ∀ artifact, OrdinaryCalls (fetchAndPut staged artifact) := by
      intro artifact
      refine Program.Only.andThen (ordinary_attempt (.fetch _) trivial _ _) fun _ => ?_
      exact ordinary_attempt (.putArtifact _ _) trivial _ _
    exact Program.Only.andThen (Program.Only.forM artifacts each)
      fun _ => ordinary_advanceToStaged staged

theorem ordinary_currentAdmissionFacts (channel : String) :
    OrdinaryCalls (currentAdmissionFacts channel) :=
  Program.Only.andThen (ordinary_attempt .list trivial _ _) fun _ => trivial

theorem ordinary_admitOrResume (verified : UpdatePlan) :
    OrdinaryCalls (admitOrResume crate verified) := by
  refine Program.Only.andThen (ordinary_attempt (.load _) trivial _ _) fun existing => ?_
  cases existing with
  | none => exact ordinary_ask (.beginChecked verified) trivial _
  | some existing =>
      dsimp only
      unfold Admission.resume
      split
      · exact trivial
      · refine Program.Only.andThen (ordinary_attempt (.stage _) trivial _ _) fun stage => ?_
        have regates : OrdinaryCalls (admission crate verified).regate :=
          Program.Only.andThen (ordinary_currentAdmissionFacts _) fun _ => ordinary_lift _
        cases stage with
        | downloading | inbox => exact Program.Only.andThen regates fun _ => trivial
        | staged | applying | applied | failed | rejected => exact trivial

theorem ordinary_getUpdates (envId : String) (verified : UpdatePlan) :
    OrdinaryCalls (getUpdates crate envId verified) := by
  refine Program.Only.andThen (ordinary_lift _) fun _ => ?_
  refine Program.Only.andThen (ordinary_lift _) fun _ => ?_
  refine Program.Only.andThen (ordinary_admitOrResume verified) fun staged => ?_
  split
  · exact ordinary_advanceToStaged staged
  · exact ordinary_downloadAndStage staged _

theorem ordinary_reverifyStaged (staged : StagedPlan) (envId : String) :
    OrdinaryCalls (reverifyStaged staged envId) := by
  refine Program.Only.andThen (ordinary_attempt (.planBytes _) trivial _ _) fun verified => ?_
  split
  · exact trivial
  · refine Program.Only.andThen (ordinary_lift _) fun _ => ?_
    refine Program.Only.andThen (ordinary_lift _) fun _ => ?_
    refine Program.Only.andThen (ordinary_attempt (.checkApplyable _) trivial _ _) fun _ => ?_
    exact trivial

theorem ordinary_admitApply (staged : StagedPlan) (verified : UpdatePlan) :
    OrdinaryCalls (admitApply staged verified) := by
  refine Program.Only.andThen (ordinary_ask (.beginApplyChecked verified) trivial _)
    fun admitted => ?_
  rcases admitted with (e | applying | _) | _
  · exact Program.Only.andThen (ordinary_settle _ (by decide)) fun _ => trivial
  · exact trivial
  · exact trivial
  · exact trivial

theorem ordinary_applyRetention : OrdinaryCalls applyRetention :=
  ordinary_ask (.applyRetention keepTerminal) trivial _

theorem ordinary_markApplied (staged : StagedPlan) (attempts : Nat) :
    OrdinaryCalls (markApplied staged attempts) := by
  have applied : UpdateStage.applied ≠ .applying := by decide
  induction attempts with
  | zero =>
      refine Program.Only.andThen (ordinary_ask (.stage _) trivial _) fun stage => ?_
      split
      · exact ordinary_applyRetention
      · exact trivial
  | succ attempts ih =>
      refine Program.Only.andThen (ordinary_ask (.transition _ .applied) applied _)
        fun reply => ?_
      cases reply with
      | some _ => exact ordinary_applyRetention
      | none => exact ih

theorem ordinary_applyManifest (staged : StagedPlan) (verified : UpdatePlan) :
    OrdinaryCalls (applyManifest staged verified) := by
  refine Program.Only.andThen (ordinary_ask (.runManifestApply _) trivial _) fun applied => ?_
  cases applied with
  | some _ => exact ordinary_markApplied staged 2
  | none =>
      refine Program.Only.andThen (ordinary_ask .restoreEnvironment trivial _) fun restored => ?_
      exact Program.Only.andThen (ordinary_settle _ (by decide)) fun _ => trivial

theorem ordinary_takeSnapshot (staged : StagedPlan) : OrdinaryCalls (takeSnapshot staged) :=
  Program.Only.rescue (ordinary_attempt .snapshotEnvironment trivial _ _) fun _ =>
    Program.Only.andThen (ordinary_settle _ (by decide)) fun _ => trivial

theorem ordinary_loadStaged (planId : PlanId) : OrdinaryCalls (loadStaged planId) := by
  refine Program.Only.andThen (ordinary_attempt (.load _) trivial _ _) fun found => ?_
  cases found with
  | none => exact trivial
  | some staged => exact trivial

theorem ordinary_applyUpdates (envId : String) (planId : PlanId) :
    OrdinaryCalls (applyUpdates envId planId) := by
  refine Program.Only.andThen (ordinary_loadStaged planId) fun staged => ?_
  refine Program.Only.andThen (ordinary_attempt (.stage _) trivial _ _) fun stage => ?_
  refine Program.Only.andThen (ordinary_lift _) fun _ => ?_
  have reverified := ordinary_orReject staged (ordinary_reverifyStaged staged envId)
  refine Program.Only.andThen reverified fun verified => ?_
  have checked : ∀ artifact, OrdinaryCalls (orReject staged
      (attempt (.verifyArtifact staged.planId artifact) (.integrity artifact.name) id)) :=
    fun artifact => ordinary_orReject staged (ordinary_attempt (.verifyArtifact _ _) trivial _ _)
  refine Program.Only.andThen (Program.Only.forM _ checked) fun _ => ?_
  refine Program.Only.andThen (ordinary_admitApply staged verified) fun _ => ?_
  refine Program.Only.andThen (ordinary_takeSnapshot staged) fun _ => ?_
  exact ordinary_applyManifest staged verified

theorem ordinary_recoverUpdates (planId : PlanId) (force : Bool) :
    OrdinaryCalls (recoverUpdates planId force) := by
  have failed : UpdateStage.failed ≠ .applying := by decide
  refine Program.Only.andThen (ordinary_loadStaged planId) fun staged => ?_
  refine Program.Only.andThen (ordinary_attempt (.stage _) trivial _ _) fun stage => ?_
  split
  · exact trivial
  · split
    · refine Program.Only.andThen (ordinary_attempt (.transition _ .failed) failed _ _) fun _ => ?_
      exact trivial
    · exact trivial

end Ordinary

theorem ordinary_body (request : UpdateRequest) : (request.body crate).Only UpdateCall.Ordinary := by
  cases request with
  | get envId verified =>
      exact Program.Only.bind (ordinary_getUpdates envId verified) fun _ => trivial
  | apply envId planId => exact ordinary_applyUpdates envId planId
  | recover planId force => exact ordinary_recoverUpdates planId force

def mindfulUpdates (crate : UpdateCrate) :=
  (updating crate).system (Interleaving.OnCalls fun _ => Mindful crate)

instance (crate : UpdateCrate) (pool) (action) :
    Decidable ((mindfulUpdates crate).allowed pool action) :=
  inferInstanceAs (Decidable (Interleaving.OnCalls (fun _ => Mindful crate) pool action))

/-- However gets, applies and recovers interleave, fail and stop, the plans that
become applied on a channel climb, as long as retention keeps each channel's
highest and each plan is admitted as the one that was verified. -/
theorem applied_sequences_climb (documented : crate.Documented)
    (actions : List (PoolAction UpdateRequest Turn Unit))
    (admits : (mindfulUpdates crate).Admits ⟨.fresh, []⟩ actions) :
    ((mindfulUpdates crate).run ⟨.fresh, []⟩ actions).shared.reached.Pairwise
      fun earlier later => earlier.envId = later.envId → earlier.sequence < later.sequence := by
  have rules : (updating crate).Rules (Interleaving.OnCalls fun _ => Mindful crate)
      (fun _ _ => UpdateCall.Ordinary) (fun _ _ _ => True) Climbing (fun _ _ _ => True) := by
    refine ⟨?_, fun _ _ _ => trivial, fun _ _ _ climbing => climbing, ?_, ?_, ?_⟩
    · intro request
      exact (ordinary_body request).obeys (fun _ _ ordinary => ordinary) (fun _ _ => trivial) ()
    · intro pool index input task call next guarded found program sound
      have ordinary := (sound.acting found program).1
      exact climbing_exec documented sound.inv ordinary (guarded.call found program)
    · intros
      trivial
    · intros
      trivial
  have fresh : Climbing Staging.fresh := by
    constructor <;> simp [Staging.fresh]
  exact ((updating crate).sound_run rules _ actions admits
    ((updating crate).sound_empty fresh)).inv.climbs

def sampleCrate : UpdateCrate where
  ensureNotDowngrade := fun plan high => high.all (· < plan.sequence)
  checkCompat := fun plan applied => plan.requires.all (applied.contains ·)
  legal := fun stage target =>
    match stage, target with
    | .downloading, .inbox | .inbox, .staged | .applying, .applied | .applying, .failed => true
    | .downloading, .rejected | .inbox, .rejected | .staged, .rejected => true
    | _, _ => false

theorem sampleCrate_documented : sampleCrate.Documented where
  newer := by
    intro plan high admitted
    simpa [sampleCrate] using admitted
  applies := by
    intro stage legal
    cases stage <;> simp [sampleCrate] at legal ⊢
  terminal := by
    intro stage target terminal
    cases stage <;> cases target <;> first | rfl | cases terminal

def plan (channel planId : String) (sequence : Nat) : UpdatePlan :=
  ⟨planId, channel, sequence, planId, channel, [], []⟩

def inTurn (requests : List UpdateRequest) : List (PoolAction UpdateRequest Turn Unit) :=
  (requests.zipIdx).flatMap fun (request, index) =>
    .arrive request :: List.replicate 9 (.advance index .done)

def getAndApply (plan : UpdatePlan) : List UpdateRequest :=
  [.get "local" plan, .apply "local" plan.planId]

/-- Two plans of the environment's own channel. -/
theorem two_plans_climb :
    let run := (mindfulUpdates sampleCrate).run ⟨.fresh, []⟩
      (inTurn (getAndApply (plan "local" "p1" 1) ++ getAndApply (plan "local" "p2" 4)))
    run.shared.reached.map (·.sequence) = [1, 4] ∧
    run.shared.reached.Pairwise
      fun earlier later => earlier.envId = later.envId → earlier.sequence < later.sequence :=
  ⟨by decide, applied_sequences_climb sampleCrate_documented _ (by decide)⟩

/-- The own channel's tenth plan is dropped after five broadcasts; its fifth is then
admitted and applied. -/
theorem broadcasts_drop_the_watermark :
    let run := ((updating sampleCrate).system fun _ _ => True).run ⟨.fresh, []⟩ (inTurn
      (getAndApply (plan "local" "p10" 10) ++
        [1, 2, 3, 4, 5].flatMap (fun n => getAndApply (plan "_" (toString n) n)) ++
        getAndApply (plan "local" "p5" 5)))
    (run.shared.reached.map fun plan => (plan.envId, plan.sequence)) =
      [("local", 10), ("_", 1), ("_", 2), ("_", 3), ("_", 4), ("_", 5), ("local", 5)] ∧
    ¬ run.shared.reached.Pairwise
      fun earlier later => earlier.envId = later.envId → earlier.sequence < later.sequence := by
  refine ⟨by decide +kernel, by decide +kernel⟩

end GreenticDeployer.Updates
