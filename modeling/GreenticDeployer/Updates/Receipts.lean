import GreenticDeployer.Updates.Channels
import GreenticDeployer.Updates.Imports

/-!
# Receipts and what they claim

A receipt on disk names blobs that are there, and a plan in flight has its blobs,
at every point of any run of imports, collections and plan changes.
-/

set_option maxHeartbeats 200000

namespace GreenticDeployer.Updates

open Lib Program

variable {crate : UpdateCrate} {sha256 : Bytes → String}

/-- Every claim is backed by a blob: the receipt's, and those of the plans in flight. -/
structure Backed (root : UpdatesRoot) : Prop where
  ids : (root.kept.map KeptPlan.planId).Nodup
  receipt : ∀ receipt, root.receipt = some receipt → receipt.heldDigests ⊆ root.casDigests
  plans : ∀ kept ∈ root.kept, kept.stage.isTerminal = false →
    kept.verified.digests ⊆ root.casDigests

/-- No plan is new, and a terminal one stays terminal. -/
def Later (root next : UpdatesRoot) : Prop :=
  ∀ kept ∈ next.kept, ∃ before ∈ root.kept, before.verified = kept.verified ∧
    (kept.stage.isTerminal = false → before.stage.isTerminal = false)

theorem Later.refl (root : UpdatesRoot) : Later root root :=
  fun kept member => ⟨kept, member, rfl, id⟩

theorem Later.trans {first second third : UpdatesRoot} (early : Later first second)
    (late : Later second third) : Later first third := by
  intro kept member
  obtain ⟨middle, between, same, running⟩ := late kept member
  obtain ⟨before, inside, same', running'⟩ := early middle between
  exact ⟨before, inside, same'.trans same, fun active => running' (running active)⟩

/-- The plans moved on, the blobs are the same. -/
structure Evolves (root next : UpdatesRoot) : Prop where
  backed : Backed next
  later : Later root next
  cas : next.cas = root.cas
  receipt : next.receipt = root.receipt

theorem Evolves.refl {root : UpdatesRoot} (backed : Backed root) : Evolves root root :=
  ⟨backed, .refl root, rfl, rfl⟩

theorem Evolves.trans {first second third : UpdatesRoot} (early : Evolves first second)
    (late : Evolves second third) : Evolves first third :=
  ⟨late.backed, early.later.trans late.later, late.cas.trans early.cas,
    late.receipt.trans early.receipt⟩

theorem Evolves.digests {root next : UpdatesRoot} (evolved : Evolves root next) :
    next.casDigests = root.casDigests := congrArg (List.map Prod.fst) evolved.cas

theorem find_locate {root : UpdatesRoot} {planId : PlanId} {kept : KeptPlan}
    (found : root.find planId = some kept) :
    ∃ located, locate (fun kept => decide (kept.planId = planId)) root.kept = some located ∧
      located.hit = kept :=
  locate_of_find? found

theorem mem_of_find {root : UpdatesRoot} {planId : PlanId} {kept : KeptPlan}
    (found : root.find planId = some kept) : kept ∈ root.kept ∧ kept.planId = planId :=
  ⟨List.mem_of_find?_eq_some found, by simpa using List.find?_some found⟩

theorem find_of_mem {root : UpdatesRoot} (distinct : (root.kept.map KeptPlan.planId).Nodup)
    {kept : KeptPlan} (member : kept ∈ root.kept) : root.find kept.planId = some kept := by
  obtain ⟨located, found, hit⟩ := locate_unique distinct member rfl
  rw [UpdatesRoot.find, find?_eq_locate, found, Option.map_some, hit]

/-- A plan revised without changing what it is, nor bringing it back. -/
structure Revises (f : KeptPlan → KeptPlan) (kept : KeptPlan) : Prop where
  verified : (f kept).verified = kept.verified
  active : (f kept).stage.isTerminal = false → kept.stage.isTerminal = false

theorem Backed.revise {root : UpdatesRoot} (backed : Backed root) {planId : PlanId}
    {kept : KeptPlan} (found : root.find planId = some kept) {f : KeptPlan → KeptPlan}
    (revises : Revises f kept) :
    Evolves root (root.revise planId f) := by
  obtain ⟨located, found_at, rfl⟩ := find_locate found
  have shape : root.revise planId f = { root with kept := located.replace (f located.hit) } := by
    rw [UpdatesRoot.revise, found_at]
  have later : Later root (root.revise planId f) := by
    rw [shape]
    intro other member
    rcases Located.mem_replace.mp member with rfl | old
    · exact ⟨located.hit, Located.mem_hit found_at, revises.verified.symm, revises.active⟩
    · exact ⟨other, Located.mem_of_mem_remove found_at old, rfl, id⟩
  refine ⟨⟨?_, ?_, ?_⟩, later, by rw [shape], by rw [shape]⟩
  · rw [shape]
    exact nodup_map_replace found_at (congrArg (·.plan.planId) revises.verified) backed.ids
  · rw [shape]
    exact backed.receipt
  · intro other member active
    obtain ⟨before, inside, same, running⟩ := later other member
    rw [← same]
    have held := backed.plans before inside (running active)
    rw [shape]
    exact held

theorem Backed.setStage {root : UpdatesRoot} (backed : Backed root)
    (documented : crate.Documented) {planId : PlanId} {target : UpdateStage} {kept : KeptPlan}
    (found : root.find planId = some kept) (legal : crate.legal kept.stage target = true) :
    Evolves root (root.setStage planId target) := by
  refine backed.revise found ⟨rfl, fun _ => ?_⟩
  cases ended : kept.stage.isTerminal with
  | false => rfl
  | true =>
      rw [documented.terminal kept.stage target ended] at legal
      cases legal

theorem Backed.change (documented : crate.Documented) {root : UpdatesRoot} (backed : Backed root)
    (change : PlanChange) : Evolves root (root.change crate change) := by
  have same := Evolves.refl backed
  cases change with
  | transition planId target =>
      rw [UpdatesRoot.change]
      cases found : root.find planId with
      | none => exact same
      | some kept =>
          by_cases legal : crate.legal kept.stage target = true
          · simp only [if_pos legal]
            exact backed.setStage documented found legal
          · simp only [if_neg legal]
            exact same
  | evict planId =>
      rw [UpdatesRoot.change]
      cases found : locate (fun kept => decide (kept.planId = planId)) root.kept with
      | none => exact same
      | some located =>
          by_cases ended : located.hit.stage.isTerminal = true
          · simp only [if_pos ended]
            have fewer := Located.remove_sublist found
            exact ⟨⟨nodup_map_remove found backed.ids, backed.receipt,
              fun kept member => backed.plans kept (fewer.subset member)⟩,
              fun kept member => ⟨kept, fewer.subset member, rfl, id⟩, rfl, rfl⟩
          · simp only [if_neg ended]
            exact same

theorem Backed.changed (documented : crate.Documented) {root : UpdatesRoot} (backed : Backed root)
    (changes : List PlanChange) :
    Evolves root (root.changed crate changes) := by
  induction changes generalizing root with
  | nil => exact .refl backed
  | cons change rest ih =>
      have first := backed.change documented change
      exact first.trans (ih first.backed)

/-- A call that cannot leave a claim unbacked where these digests are in the CAS. -/
def Harmless (known : List String) : RootCall → Prop
  | .casRemove _ => False
  | .writeImportReceipt receipt => receipt.heldDigests ⊆ known
  | .beginChecked verified _ _ => verified.digests ⊆ known
  | _ => True

/-- The invariant, with digests that are known to be in the CAS. -/
structure Holds (known : List String) (root : UpdatesRoot) : Prop where
  backed : Backed root
  known : known ⊆ root.casDigests

theorem Holds.of_revise {known : List String} {root : UpdatesRoot} (holds : Holds known root)
    {next : UpdatesRoot} (revised : Evolves root next) : Holds known next := by
  refine ⟨revised.backed, ?_⟩
  rw [revised.digests]
  exact holds.known

theorem Holds.changed (documented : crate.Documented) {known : List String} {root : UpdatesRoot}
    (holds : Holds known root) (changes : List PlanChange) :
    Holds known (root.changed crate changes) :=
  holds.of_revise (holds.backed.changed documented changes)

theorem putCas_digests (root : UpdatesRoot) (digest : String) (bytes : Bytes) :
    digest ∈ (root.putCas digest bytes).casDigests ∧
      root.casDigests ⊆ (root.putCas digest bytes).casDigests := by
  refine ⟨List.mem_cons_self, fun other member => ?_⟩
  obtain ⟨entry, inside, rfl⟩ := List.mem_map.mp member
  by_cases same : entry.1 = digest
  · rw [same]
    exact List.mem_cons_self
  · exact List.mem_cons_of_mem _ (List.mem_map_of_mem
      (List.mem_filter.mpr ⟨inside, decide_eq_true same⟩))

theorem Holds.putCas {known : List String} {root : UpdatesRoot} (holds : Holds known root)
    (digest : String) (bytes : Bytes) : Holds (digest :: known) (root.putCas digest bytes) := by
  obtain ⟨new, grown⟩ := putCas_digests root digest bytes
  refine ⟨⟨holds.backed.ids, ?_, ?_⟩, List.cons_subset.mpr ⟨new, List.Subset.trans holds.known grown⟩⟩
  · exact fun receipt written => List.Subset.trans (holds.backed.receipt receipt written) grown
  · exact fun kept member active => List.Subset.trans (holds.backed.plans kept member active) grown

theorem Holds.weaken {known fewer : List String} {root : UpdatesRoot} (holds : Holds known root)
    (less : fewer ⊆ known) : Holds fewer root := ⟨holds.backed, List.Subset.trans less holds.known⟩

theorem Holds.wrote {known : List String} {root next : UpdatesRoot} (holds : Holds known root)
    (turn : Turn) (after : Holds known next) : Holds known (root.wrote turn next).2 := by
  cases turn with
  | done => exact after
  | failed effective =>
      cases effective with
      | true => exact after
      | false => exact holds

theorem Holds.putBlob {known : List String} {root : UpdatesRoot} (holds : Holds known root)
    (turn : Turn) (planId : PlanId) (digest : String) (bytes : Bytes) {put : KeptPlan → KeptPlan}
    (revises : ∀ kept, Revises put kept) :
    Holds known (root.putBlob sha256 turn planId digest bytes put).2 := by
  unfold UpdatesRoot.putBlob
  cases found : root.find planId with
  | none => exact holds
  | some kept =>
      by_cases fine : kept.stage = .downloading ∧ sha256 bytes = digest
      · simp only [if_pos fine]
        exact holds.wrote turn (holds.of_revise (holds.backed.revise found (revises kept)))
      · simp only [if_neg fine]
        exact holds

theorem Holds.begin {known : List String} {root : UpdatesRoot} (holds : Holds known root)
    (turn : Turn) {verified : VerifiedUpdatePlan} {planBytes sigBytes : Bytes}
    (digests : verified.digests ⊆ known) :
    Holds known (root.beginChecked crate turn verified planBytes sigBytes).2 := by
  unfold UpdatesRoot.beginChecked
  cases found : root.find verified.plan.planId with
  | some _ => exact holds
  | none =>
      cases admitPlan crate verified.plan
          (admissionFacts (root.kept.map KeptPlan.record) verified.plan.envId) with
      | error e => exact holds
      | ok _ =>
          cases effect : turn.effective with
          | false => simpa [effect] using holds
          | true =>
              simp only [if_true]
              refine ⟨⟨?_, holds.backed.receipt, ?_⟩, holds.known⟩
              · refine List.nodup_cons.mpr ⟨?_, holds.backed.ids⟩
                intro member
                obtain ⟨kept, inside, same⟩ := List.mem_map.mp member
                exact List.find?_eq_none.mp found kept inside (decide_eq_true same)
              · intro kept member active
                rcases List.mem_cons.mp member with rfl | old
                · exact List.Subset.trans digests holds.known
                · exact holds.backed.plans kept old active

theorem Holds.call (documented : crate.Documented) {known : List String} {root : UpdatesRoot}
    (holds : Holds known root) (turn : Turn) {call : RootCall} (harmless : Harmless known call) :
    Holds known (root.call crate sha256 turn call).2 := by
  cases call with
  | preflightDigests required carried => exact holds
  | casGet digest => exact holds
  | casPut digest bytes =>
      rw [UpdatesRoot.call]
      by_cases sound : sha256 bytes = digest
      · rw [if_pos sound]
        exact holds.wrote turn ((holds.putCas digest bytes).weaken (List.subset_cons_self _ _))
      · rw [if_neg sound]
        exact holds
  | casList => exact holds
  | casRemove digest => exact harmless.elim
  | load planId => exact holds
  | stage planId => exact holds
  | list => exact holds
  | beginChecked verified planBytes sigBytes => exact holds.begin turn harmless
  | transition planId target =>
      rw [UpdatesRoot.call]
      cases found : root.find planId with
      | none => exact holds
      | some kept =>
          by_cases legal : crate.legal kept.stage target = true
          · simp only [if_pos legal]
            cases turn.effective with
            | true => exact holds.of_revise (holds.backed.setStage documented found legal)
            | false => exact holds
          · simp only [if_neg legal]
            exact holds
  | binaryStaged planId binary => exact holds
  | putBinaryBlob planId binary bytes => exact holds.putBlob turn _ _ _ fun _ => ⟨rfl, id⟩
  | putArtifact planId artifact bytes => exact holds.putBlob turn _ _ _ fun _ => ⟨rfl, id⟩
  | writeImportReceipt receipt =>
      refine holds.wrote turn ⟨⟨holds.backed.ids, ?_, holds.backed.plans⟩, holds.known⟩
      intro written same
      cases same
      exact List.Subset.trans harmless holds.known

theorem Holds.exec (documented : crate.Documented) {known : List String} {root : UpdatesRoot}
    (holds : Holds known root) (input : RootInput) {call : RootCall}
    (harmless : Harmless known call) :
    Holds known (UpdatesRoot.exec crate sha256 input root call).2 :=
  (holds.changed documented input.changes).call documented input.turn harmless

/-- Safe with the invariant at every cut, however its calls turn out. -/
abbrev SafeFrom {α : Type} (crate : UpdateCrate) (sha256 : Bytes → String)
    (post : Except ImportError α → UpdatesRoot → Prop) (program : Importing α)
    (root : UpdatesRoot) : Prop :=
  program.run.Safe (UpdatesRoot.exec crate sha256) (fun _ => True) Backed post root

/-- From any root with these digests, a program that loses none of them. -/
def Keeps {α : Type} (crate : UpdateCrate) (sha256 : Bytes → String) (known : List String)
    (program : Importing α) : Prop :=
  ∀ root, Holds known root → SafeFrom crate sha256 (fun _ next => Holds known next) program root

section Keeps

variable {α β : Type} {known : List String}

theorem Keeps.pure (value : α) : Keeps crate sha256 known (Pure.pure value) :=
  fun _ holds => ⟨holds.backed, holds⟩

theorem Keeps.throw (e : ImportError) :
    Keeps crate sha256 known (MonadExcept.throw e : Importing α) :=
  fun _ holds => ⟨holds.backed, holds⟩

theorem Keeps.lift (outcome : Except ImportError α) :
    Keeps crate sha256 known (Program.lift outcome) :=
  fun _ holds => ⟨holds.backed, holds⟩

theorem Keeps.ask (documented : crate.Documented) {call : RootCall}
    {sort : call.Reply → Except ImportError α} (harmless : Harmless known call) :
    Keeps crate sha256 known (Program.ask call sort) :=
  fun _ holds => Safe.ask holds.backed
    (fun input _ => (holds.exec documented input harmless).backed)
    fun input _ => holds.exec documented input harmless

theorem Keeps.bind {program : Importing α} {f : α → Importing β}
    (first : Keeps crate sha256 known program) (rest : ∀ value, Keeps crate sha256 known (f value)) :
    Keeps crate sha256 known (program >>= f) :=
  fun root holds => Safe.andThen _ (first root holds) (fun _ _ _ same => same)
    fun value next _ held => rest value next held

theorem Keeps.forM {body : α → Importing PUnit} (items : List α)
    (turn : ∀ item, Keeps crate sha256 known (body item)) :
    Keeps crate sha256 known (items.forM body) := by
  induction items with
  | nil => exact .pure _
  | cons item rest ih => exact .bind (turn item) fun _ => ih

theorem Keeps.ite {condition : Prop} [Decidable condition] {left right : Importing α}
    (yes : Keeps crate sha256 known left) (no : Keeps crate sha256 known right) :
    Keeps crate sha256 known (if condition then left else right) := by
  by_cases holds : condition
  · rw [if_pos holds]
    exact yes
  · rw [if_neg holds]
    exact no

end Keeps

section Import

variable (documented : crate.Documented) {known : List String}

include documented

theorem keeps_corrupted (carried digests : List String) :
    Keeps crate sha256 known (corrupted carried digests) := by
  induction digests with
  | nil => exact .pure _
  | cons digest rest ih =>
      rw [corrupted]
      exact .ite ih (.bind (.ask documented trivial) fun _ => .bind ih fun _ => .pure _)

theorem keeps_resume (verified : VerifiedUpdatePlan) (planBytes sigBytes : Bytes)
    (existing : KeptPlan) :
    Keeps crate sha256 known ((importAdmission crate verified planBytes sigBytes).resume
      verified.plan.planSha256 existing) := by
  refine .ite (.throw _) (.bind (.ask documented trivial) fun stage => ?_)
  have regates : Keeps crate sha256 known
      (importAdmission crate verified planBytes sigBytes).regate :=
    .bind (.ask documented trivial) fun _ => .lift _
  cases stage with
  | downloading => exact .bind regates fun _ => .pure _
  | inbox => exact .bind regates fun _ => .pure _
  | staged => exact .pure _
  | applying => exact .pure _
  | applied => exact .pure _
  | failed => exact .throw _
  | rejected => exact .throw _

theorem keeps_admitOrResume {verified : VerifiedUpdatePlan} {planBytes sigBytes : Bytes}
    (digests : verified.digests ⊆ known) :
    Keeps crate sha256 known (admitOrResumeImport crate verified planBytes sigBytes) := by
  refine .bind (.ask documented trivial) fun found => ?_
  cases found with
  | none => exact .ask documented digests
  | some existing => exact keeps_resume documented verified planBytes sigBytes existing

theorem keeps_stageBinary (planId : PlanId) (binary : PlanBinary) :
    Keeps crate sha256 known (stageBinary planId binary) :=
  .bind (.ask documented trivial) fun _ => .ite (.pure _)
    (.bind (.ask documented trivial) fun _ => .ask documented trivial)

theorem keeps_stageBinaries (planId : PlanId) (binaries : List PlanBinary) :
    Keeps crate sha256 known (stageBinaries planId binaries) :=
  .bind (.ask documented trivial) fun _ =>
    .ite (.forM binaries fun binary => keeps_stageBinary documented planId binary) (.pure _)

theorem keeps_stageArtifacts (planId : PlanId) (artifacts : List PlanArtifact) (promote : Bool) :
    Keeps crate sha256 known (stageArtifacts planId artifacts promote) := by
  refine .bind (.ask documented trivial) fun _ => .ite ?_ (.ite (.ask documented trivial) (.pure _))
  refine .bind (.forM artifacts fun artifact => ?_) fun _ => ?_
  · exact .bind (.ask documented trivial) fun _ => .ask documented trivial
  · exact .bind (.ask documented trivial) fun _ => .ite (.ask documented trivial) (.pure _)

theorem safe_receipt (envId : String) {root : UpdatesRoot} (backed : Backed root) :
    SafeFrom crate sha256 (fun outcome next => ∀ done, outcome = .ok done →
      ∃ middle, Evolves root middle ∧
        next = { middle with receipt := some ⟨envId, root.casDigests⟩ })
      (signAndWriteReceipt envId) root := by
  have moves : ∀ input, Evolves root (UpdatesRoot.exec crate sha256 input root .casList).2 :=
    fun input => backed.changed documented input.changes
  refine Safe.andThen (fun outcome next => Evolves root next ∧
    ∀ inventory, outcome = .ok inventory → inventory = root.casDigests)
    (Safe.ask backed (fun input _ => (moves input).backed)
      fun input _ => ⟨moves input, ?_⟩) (fun _ _ _ _ _ wrong => by cases wrong) ?_
  · intro inventory returned
    cases turned : input.turn with
    | done =>
        simp only [UpdatesRoot.exec, UpdatesRoot.call, turned, Turn.reply, orElse] at returned
        cases returned
        exact (moves input).digests
    | failed _ =>
        simp only [UpdatesRoot.exec, UpdatesRoot.call, turned, Turn.reply, orElse] at returned
        cases returned
  · rintro inventory next - ⟨evolved, listed⟩
    have named := listed inventory rfl
    subst named
    have holds : Holds root.casDigests next := by
      refine ⟨evolved.backed, ?_⟩
      rw [evolved.digests]
      exact List.Subset.refl _
    have writes : ∀ input, Holds root.casDigests (UpdatesRoot.exec crate sha256 input next
        (.writeImportReceipt ⟨envId, root.casDigests⟩)).2 :=
      fun input => holds.exec documented input (List.Subset.refl _)
    refine Safe.ask evolved.backed (fun input _ => (writes input).backed) fun input _ => ?_
    intro done returned
    refine ⟨next.changed crate input.changes,
      evolved.trans (evolved.backed.changed documented input.changes), ?_⟩
    cases turned : input.turn with
    | done => simp [UpdatesRoot.exec, UpdatesRoot.call, turned, UpdatesRoot.wrote, Turn.effective]
    | failed _ =>
        simp [UpdatesRoot.exec, UpdatesRoot.call, turned, UpdatesRoot.wrote, Turn.reply,
          orElse] at returned

/-- The digests still to come are in the envelope. -/
def Loading (verified : VerifiedUpdatePlan) (blobs : List (String × Bytes)) (root : UpdatesRoot) :
    Prop :=
  ∃ known, Holds known root ∧ verified.digests ⊆ blobs.map Prod.fst ++ known

theorem safe_importBlob {verified : VerifiedUpdatePlan} {blob : String × Bytes}
    {rest : List (String × Bytes)} {root : UpdatesRoot}
    (loading : Loading verified (blob :: rest) root) :
    SafeFrom crate sha256 (fun outcome next =>
      match outcome with
      | .ok _ => Loading verified rest next
      | .error _ => True) (importBlob blob) root := by
  obtain ⟨known, holds, covered⟩ := loading
  have stays : ∀ input,
      Holds known (UpdatesRoot.exec crate sha256 input root (.casPut blob.1 blob.2)).2 :=
    fun input => holds.exec documented input trivial
  refine Safe.ask holds.backed (fun input _ => (stays input).backed) fun input _ => ?_
  have held := holds.changed documented input.changes
  by_cases sound : sha256 blob.2 = blob.1
  · cases turned : input.turn with
    | failed _ =>
        simp [UpdatesRoot.exec, UpdatesRoot.call, turned, Turn.reply, orElse, sound,
          UpdatesRoot.wrote]
    | done =>
        simp only [UpdatesRoot.exec, UpdatesRoot.call, if_pos sound, turned, Turn.reply, orElse,
          UpdatesRoot.wrote, Turn.effective, if_true]
        refine ⟨blob.1 :: known, held.putCas blob.1 blob.2, fun digest member => ?_⟩
        have found := covered member
        simp only [List.map_cons, List.cons_append, List.mem_cons, List.mem_append] at found ⊢
        tauto
  · simp [UpdatesRoot.exec, UpdatesRoot.call, orElse, sound]

/-- A passed preflight: what the envelope does not carry is in the CAS. -/
theorem safe_checkBlobs {verified : VerifiedUpdatePlan} {blobs : List (String × Bytes)}
    {root : UpdatesRoot} (backed : Backed root) :
    SafeFrom crate sha256 (fun outcome next =>
      match outcome with
      | .ok _ => Loading verified blobs next
      | .error _ => True) (checkBlobs verified (blobs.map Prod.fst)) root := by
  have holds : Holds [] root := ⟨backed, List.nil_subset _⟩
  have stays : ∀ input, Holds [] (UpdatesRoot.exec crate sha256 input root
      (.preflightDigests verified.digests (blobs.map Prod.fst))).2 :=
    fun input => holds.exec documented input trivial
  refine Safe.andThen (fun outcome next =>
      match outcome with
      | .ok _ => Loading verified blobs next
      | .error _ => True)
    (Safe.ask backed (fun input _ => (stays input).backed) fun input _ => ?_)
    (fun _ _ _ _ => trivial) ?_
  · by_cases found : verified.digests.all fun digest => digest ∈ blobs.map Prod.fst ∨
        digest ∈ (root.changed crate input.changes).casDigests
    · cases turned : input.turn with
      | failed _ =>
          simp only [UpdatesRoot.exec, UpdatesRoot.call, if_pos found, turned, Turn.reply, orElse]
      | done =>
          simp only [UpdatesRoot.exec, UpdatesRoot.call, if_pos found, turned, Turn.reply, orElse]
          refine ⟨(root.changed crate input.changes).casDigests,
            ⟨(stays input).backed, List.Subset.refl _⟩, fun digest member => ?_⟩
          exact List.mem_append.mpr (of_decide_eq_true (List.all_eq_true.mp found digest member))
    · simp only [UpdatesRoot.exec, UpdatesRoot.call, if_neg found, orElse]
  · rintro _ next _ ⟨known, holds, covered⟩
    refine Safe.andThen _ (keeps_corrupted documented _ _ next holds) (fun _ _ _ _ => trivial) ?_
    intro unreadable next _ holds
    by_cases clean : unreadable = []
    · rw [if_pos clean]
      exact ⟨holds.backed, known, holds, covered⟩
    · rw [if_neg clean]
      exact ⟨holds.backed, trivial⟩

theorem safe_import (verify : Verify) (envId : String) (scanned : ScannedEnvelope)
    (promote : Bool) {root : UpdatesRoot} (backed : Backed root) :
    SafeFrom crate sha256 (fun _ _ => True) (importImpl verify crate envId scanned promote)
      root := by
  have holds : Holds [] root := ⟨backed, List.nil_subset _⟩
  refine Safe.andThen (fun _ next => Holds [] next) (Keeps.lift _ root holds)
    (fun _ _ _ _ => trivial) ?_
  intro verified next _ holds
  refine Safe.andThen (fun _ next => Holds [] next) (Keeps.lift _ next holds)
    (fun _ _ _ _ => trivial) ?_
  intro _ next _ holds
  refine Safe.andThen _ (safe_checkBlobs documented holds.backed) (fun _ _ _ _ => trivial) ?_
  intro _ next _ loading
  refine Safe.andThen (fun outcome next =>
      match outcome with
      | .ok _ => Loading verified [] next
      | .error _ => True)
    (Safe.forM (Loading verified) _ loading ?_ (fun _ _ loading => loading.choose_spec.1.backed)
      fun _ _ done => done) (fun _ _ _ _ => trivial) ?_
  · intro blob rest state _ loading
    refine (safe_importBlob documented loading).mono (fun _ same => same) ?_
    intro outcome next _ reached
    cases outcome with
    | ok _ => exact reached
    | error e => trivial
  intro _ next _ loading
  obtain ⟨known, holds, covered⟩ := loading
  have digests : verified.digests ⊆ known := covered
  refine Safe.andThen _ (keeps_admitOrResume documented digests next holds)
    (fun _ _ _ _ => trivial) ?_
  intro planId next _ holds
  refine Safe.andThen _ (keeps_stageBinaries documented planId verified.binaries next holds)
    (fun _ _ _ _ => trivial) ?_
  intro _ next _ holds
  refine Safe.andThen _ (keeps_stageArtifacts documented planId _ promote next holds)
    (fun _ _ _ _ => trivial) ?_
  intro stage next _ holds
  refine Safe.andThen _ (safe_receipt documented envId holds.backed) (fun _ _ _ _ => trivial) ?_
  exact fun _ next held _ => ⟨held, trivial⟩

end Import

def Referenced (root : UpdatesRoot) (digest : String) : Prop :=
  ∃ kept ∈ root.kept, kept.stage.isTerminal = false ∧ digest ∈ kept.verified.digests

/-- The digests of the plans in flight are among these. -/
def Covers (referenced : List String) (root : UpdatesRoot) : Prop :=
  ∀ digest, Referenced root digest → digest ∈ referenced

theorem Covers.later {referenced : List String} {root next : UpdatesRoot}
    (covers : Covers referenced root) (later : Later root next) : Covers referenced next := by
  rintro digest ⟨kept, member, active, inside⟩
  obtain ⟨before, stored, same, running⟩ := later kept member
  exact covers digest ⟨before, stored, running active, by rw [same]; exact inside⟩

section Collect

variable (documented : crate.Documented)

include documented

theorem safe_referenced (states : List KeptPlan) {listed root : UpdatesRoot}
    (from_listed : states ⊆ listed.kept) (distinct : Backed listed)
    (evolved : Evolves listed root) :
    SafeFrom crate sha256 (fun outcome next => Evolves root next ∧
      ∀ referenced, outcome = .ok referenced →
        (∀ digest ∈ referenced, ∃ state ∈ states, state.stage.isTerminal = false ∧
          digest ∈ state.verified.digests) ∧
        ∀ state ∈ states, state.stage.isTerminal = false → ∀ kept ∈ next.kept,
          kept.verified = state.verified → state.verified.digests ⊆ referenced)
      (referencedDigests states) root := by
  induction states generalizing root with
  | nil =>
      refine ⟨evolved.backed, .refl evolved.backed, fun referenced returned => ?_⟩
      cases returned
      exact ⟨nofun, nofun⟩
  | cons state rest ih =>
      obtain ⟨here, others⟩ := List.cons_subset.mp from_listed
      rw [referencedDigests]
      cases ended : state.stage.isTerminal with
      | true =>
          refine (ih others evolved).mono (fun _ same => same) ?_
          rintro outcome next _ ⟨on, found⟩
          refine ⟨on, fun referenced returned => ?_⟩
          obtain ⟨sound, complete⟩ := found referenced returned
          refine ⟨fun digest member => ?_, ?_⟩
          · obtain ⟨one, inside, facts⟩ := sound digest member
            exact ⟨one, List.mem_cons_of_mem _ inside, facts⟩
          · intro one member active
            rcases List.mem_cons.mp member with rfl | later
            · rw [ended] at active
              cases active
            · exact complete one later active
      | false =>
          have moves : ∀ input, Evolves root
              (UpdatesRoot.exec crate sha256 input root (.load state.planId)).2 :=
            fun input => evolved.backed.changed documented input.changes
          refine Safe.andThen (fun outcome next => Evolves root next ∧
            ∀ loaded, outcome = .ok loaded → loaded = next.find state.planId)
            (Safe.ask evolved.backed (fun input _ => (moves input).backed)
              fun input _ => ⟨moves input, ?_⟩)
            (fun _ _ _ failed => ⟨failed.1, fun _ wrong => by cases wrong⟩) ?_
          · intro loaded returned
            cases turned : input.turn with
            | done =>
                simp only [UpdatesRoot.exec, UpdatesRoot.call, turned, Turn.reply, orElse]
                  at returned
                cases returned
                rfl
            | failed _ =>
                simp only [UpdatesRoot.exec, UpdatesRoot.call, turned, Turn.reply, orElse]
                  at returned
                cases returned
          rintro loaded middle - ⟨first, read⟩
          have found := read loaded rfl
          refine Safe.andThen _ (ih others (evolved.trans first))
            (fun _ _ _ failed => ⟨first.trans failed.1, fun _ wrong => by cases wrong⟩) ?_
          rintro remaining next held ⟨on, rests⟩
          obtain ⟨sound, complete⟩ := rests remaining rfl
          refine ⟨held, first.trans on, fun referenced returned => ?_⟩
          cases returned
          refine ⟨fun digest member => ?_, ?_⟩
          · rcases List.mem_append.mp member with own | later
            · refine ⟨state, List.mem_cons_self, ended, ?_⟩
              cases loaded with
              | none => cases own
              | some kept =>
                  obtain ⟨stored, named⟩ := mem_of_find found.symm
                  obtain ⟨before, early, same, -⟩ := (evolved.trans first).later kept stored
                  have ids : before.planId = state.planId :=
                    (congrArg (·.plan.planId) same).trans named
                  cases List.inj_on_of_nodup_map distinct.ids early here ids
                  rw [same]
                  exact own
            · obtain ⟨one, inside, facts⟩ := sound digest later
              exact ⟨one, List.mem_cons_of_mem _ inside, facts⟩
          · intro one member active kept inside same
            rcases List.mem_cons.mp member with rfl | later
            · obtain ⟨before, stored, same', -⟩ := on.later kept inside
              have verified := same'.trans same
              have ids : before.planId = one.planId := congrArg (·.plan.planId) verified
              rw [← ids, find_of_mem first.backed.ids stored] at found
              rw [found, ← verified]
              exact List.subset_append_left _ _
            · exact List.Subset.trans (complete one later active kept inside same)
                (List.subset_append_right _ _)

/-- With these digests still to evict, none of which is referenced. -/
structure Sweeping (listed : UpdatesRoot) (referenced items : List String) (root : UpdatesRoot) :
    Prop where
  backed : Backed root
  later : Later listed root
  covers : Covers referenced root
  orphans : ∀ digest ∈ items, digest ∉ referenced
  within : ∀ digest ∈ root.casDigests,
    digest ∈ listed.casDigests ∧ (digest ∈ referenced ∨ digest ∈ items)
  keeps : ∀ digest ∈ listed.casDigests, digest ∈ referenced → digest ∈ root.casDigests

/-- The receipt on disk claims nothing while something is evicted. -/
structure Evicting (listed : UpdatesRoot) (referenced items : List String) (root : UpdatesRoot) :
    Prop extends Sweeping listed referenced items root where
  disclaimed : items ≠ [] → ∃ envId, root.receipt = some ⟨envId, []⟩

omit documented in
theorem Sweeping.evolved {listed root next : UpdatesRoot} {referenced items : List String}
    (sweeping : Sweeping listed referenced items root) (evolved : Evolves root next) :
    Sweeping listed referenced items next where
  backed := evolved.backed
  later := sweeping.later.trans evolved.later
  covers := sweeping.covers.later evolved.later
  orphans := sweeping.orphans
  within := by
    rw [evolved.digests]
    exact sweeping.within
  keeps := by
    rw [evolved.digests]
    exact sweeping.keeps

omit documented in
theorem Evicting.evolved {listed root next : UpdatesRoot} {referenced items : List String}
    (evicting : Evicting listed referenced items root) (evolved : Evolves root next) :
    Evicting listed referenced items next where
  toSweeping := evicting.toSweeping.evolved evolved
  disclaimed := by
    rw [evolved.receipt]
    exact evicting.disclaimed

omit documented in
theorem mem_removeCas {root : UpdatesRoot} {digest other : String} :
    other ∈ (root.removeCas digest).casDigests ↔ other ∈ root.casDigests ∧ other ≠ digest := by
  simp only [UpdatesRoot.removeCas, UpdatesRoot.casDigests, List.mem_map, List.mem_filter,
    decide_eq_true_eq]
  constructor
  · rintro ⟨entry, ⟨inside, apart⟩, rfl⟩
    exact ⟨⟨entry, inside, rfl⟩, apart⟩
  · rintro ⟨⟨entry, inside, rfl⟩, apart⟩
    exact ⟨entry, ⟨inside, apart⟩, rfl⟩

omit documented in
theorem Evicting.remove {listed root : UpdatesRoot} {referenced rest : List String}
    {digest : String} (evicting : Evicting listed referenced (digest :: rest) root) :
    Evicting listed referenced rest (root.removeCas digest) := by
  have orphan : digest ∉ referenced := evicting.orphans digest List.mem_cons_self
  obtain ⟨envId, disclaimed⟩ := evicting.disclaimed (List.cons_ne_nil _ _)
  refine ⟨⟨⟨evicting.backed.ids, ?_, ?_⟩, evicting.later, evicting.covers,
    fun other member => evicting.orphans other (List.mem_cons_of_mem _ member), ?_, ?_⟩,
    fun _ => ⟨envId, disclaimed⟩⟩
  · intro receipt written
    have empty : some receipt = some ⟨envId, []⟩ := written.symm.trans disclaimed
    cases empty
    exact List.nil_subset _
  · intro kept member active other inside
    refine mem_removeCas.mpr ⟨evicting.backed.plans kept member active inside, ?_⟩
    rintro rfl
    exact orphan (evicting.covers other ⟨kept, member, active, inside⟩)
  · intro other member
    obtain ⟨stored, apart⟩ := mem_removeCas.mp member
    obtain ⟨early, found⟩ := evicting.within other stored
    refine ⟨early, found.imp_right fun still => ?_⟩
    exact (List.mem_cons.mp still).resolve_left apart
  · intro other early inside
    refine mem_removeCas.mpr ⟨evicting.keeps other early inside, ?_⟩
    rintro rfl
    exact orphan inside

omit documented in
/-- One write: cut in front of it or behind it the claims are backed, and where it reports
success it took effect. -/
theorem safe_wrote {call : RootCall} {sort : call.Reply → Except ImportError Unit}
    (e : ImportError) (next : UpdatesRoot → UpdatesRoot) {post : UpdatesRoot → Prop}
    {root : UpdatesRoot} (backed : Backed root)
    (writes : ∀ input changed, changed = root.changed crate input.changes →
      sort (UpdatesRoot.exec crate sha256 input root call).1 =
          orElse e (changed.wrote input.turn (next changed)).1 ∧
        (UpdatesRoot.exec crate sha256 input root call).2 =
          (changed.wrote input.turn (next changed)).2)
    (stays : ∀ input : RootInput, Backed (root.changed crate input.changes))
    (wrote : ∀ input : RootInput, Backed (next (root.changed crate input.changes)) ∧
      post (next (root.changed crate input.changes))) :
    SafeFrom crate sha256 (fun outcome after =>
      match outcome with
      | .ok _ => post after
      | .error _ => True) (Program.ask call sort) root := by
  refine Safe.ask backed (fun input _ => ?_) fun input _ => ?_
  · rw [(writes input _ rfl).2, UpdatesRoot.wrote]
    cases input.turn.effective with
    | true => exact (wrote input).1
    | false => exact stays input
  · rw [(writes input _ rfl).1, (writes input _ rfl).2, UpdatesRoot.wrote]
    cases input.turn with
    | done => exact (wrote input).2
    | failed effective => trivial

theorem safe_evictBlob {listed root : UpdatesRoot} {referenced rest : List String} {digest : String}
    (evicting : Evicting listed referenced (digest :: rest) root) :
    SafeFrom crate sha256 (fun outcome next =>
      match outcome with
      | .ok _ => Evicting listed referenced rest next
      | .error _ => True) (evictBlob digest) root := by
  have moved : ∀ input : RootInput,
      Evicting listed referenced (digest :: rest) (root.changed crate input.changes) :=
    fun input => evicting.evolved (evicting.backed.changed documented input.changes)
  refine safe_wrote (.casRemove digest) (·.removeCas digest) evicting.backed ?_
    (fun input => (moved input).backed) fun input =>
    ⟨(moved input).remove.backed, (moved input).remove⟩
  rintro input _ rfl
  exact ⟨rfl, rfl⟩

/-- Where something is evicted, the receipt on disk claims nothing by then. -/
theorem safe_disclaim (envId : String) {listed root : UpdatesRoot}
    {referenced items : List String} (sweeping : Sweeping listed referenced items root) :
    SafeFrom crate sha256 (fun outcome next =>
      match outcome with
      | .ok _ => Evicting listed referenced items next
      | .error _ => True) (disclaim envId items) root := by
  rw [disclaim]
  by_cases nothing : items = []
  · rw [if_pos nothing]
    exact ⟨sweeping.backed, sweeping, absurd nothing⟩
  · rw [if_neg nothing]
    have moved : ∀ input : RootInput,
        Sweeping listed referenced items (root.changed crate input.changes) :=
      fun input => sweeping.evolved (sweeping.backed.changed documented input.changes)
    have wrote : ∀ input : RootInput, Sweeping listed referenced items
        { root.changed crate input.changes with receipt := some ⟨envId, []⟩ } := by
      intro input
      have before := moved input
      refine ⟨⟨before.backed.ids, ?_, before.backed.plans⟩, before.later, before.covers,
        before.orphans, before.within, before.keeps⟩
      intro receipt written
      cases written
      exact List.nil_subset _
    refine safe_wrote .receipt (fun changed => { changed with receipt := some ⟨envId, []⟩ })
      sweeping.backed ?_ (fun input => (moved input).backed)
      fun input => ⟨(wrote input).backed, wrote input, fun _ => ⟨envId, rfl⟩⟩
    rintro input _ rfl
    exact ⟨rfl, rfl⟩

structure Collected (envId : String) (listed root : UpdatesRoot) : Prop where
  later : Later listed root
  within : ∀ digest ∈ root.casDigests, digest ∈ listed.casDigests ∧ Referenced listed digest
  keeps : ∀ digest ∈ listed.casDigests, Referenced root digest → digest ∈ root.casDigests
  receipt : root.receipt = some ⟨envId, root.casDigests⟩

/-- A collection keeps every claim backed wherever it fails or is cut off. Where it
returns, it has left what the plans in flight reference, and a receipt that says so. -/
theorem safe_casGc (envId : String) {root : UpdatesRoot} (backed : Backed root) :
    SafeFrom crate sha256 (fun outcome next => ∀ done, outcome = .ok done →
      ∃ listed, Evolves root listed ∧ Collected envId listed next) (casGcImpl envId) root := by
  have moves : ∀ input, Evolves root (UpdatesRoot.exec crate sha256 input root .list).2 :=
    fun input => backed.changed documented input.changes
  refine Safe.andThen (fun outcome next => Evolves root next ∧
    ∀ plans, outcome = .ok plans → plans = next.kept)
    (Safe.ask backed (fun input _ => (moves input).backed) fun input _ => ⟨moves input, ?_⟩)
    (fun _ _ _ _ _ wrong => by cases wrong) ?_
  · intro plans returned
    cases turned : input.turn with
    | done =>
        simp only [UpdatesRoot.exec, UpdatesRoot.call, turned, Turn.reply, orElse] at returned
        cases returned
        rfl
    | failed _ =>
        simp only [UpdatesRoot.exec, UpdatesRoot.call, turned, Turn.reply, orElse] at returned
        cases returned
  rintro plans listed - ⟨early, named⟩
  have same := named plans rfl
  subst same
  refine Safe.andThen _ (safe_referenced documented listed.kept (List.Subset.refl _) early.backed
    (.refl early.backed)) (fun _ _ _ _ _ wrong => by cases wrong) ?_
  rintro referenced scanned - ⟨evolved, found⟩
  obtain ⟨sound, complete⟩ := found referenced rfl
  have covers : Covers referenced scanned := by
    rintro digest ⟨kept, member, active, inside⟩
    obtain ⟨state, stored, verified, running⟩ := evolved.later kept member
    refine complete state stored (running active) kept member verified.symm ?_
    rw [verified]
    exact inside
  have lists : ∀ input, Evolves scanned (UpdatesRoot.exec crate sha256 input scanned .casList).2 :=
    fun input => evolved.backed.changed documented input.changes
  refine Safe.andThen (fun outcome next => Evolves scanned next ∧
    ∀ blobs, outcome = .ok blobs → blobs = listed.casDigests)
    (Safe.ask evolved.backed (fun input _ => (lists input).backed) fun input _ => ⟨lists input, ?_⟩)
    (fun _ _ _ _ _ wrong => by cases wrong) ?_
  · intro blobs returned
    cases turned : input.turn with
    | done =>
        simp only [UpdatesRoot.exec, UpdatesRoot.call, turned, Turn.reply, orElse] at returned
        cases returned
        exact (lists input).digests.trans evolved.digests
    | failed _ =>
        simp only [UpdatesRoot.exec, UpdatesRoot.call, turned, Turn.reply, orElse] at returned
        cases returned
  rintro blobs next - ⟨moved, read⟩
  have same := read blobs rfl
  subst same
  have sweeping : Sweeping listed referenced
      (listed.casDigests.filter fun digest => digest ∉ referenced) next := by
    have whole := evolved.trans moved
    refine ⟨moved.backed, whole.later, covers.later moved.later, ?_, ?_, ?_⟩
    · exact fun digest member => of_decide_eq_true (List.mem_filter.mp member).2
    · intro digest member
      rw [whole.digests] at member
      by_cases known : digest ∈ referenced
      · exact ⟨member, .inl known⟩
      · exact ⟨member, .inr (List.mem_filter.mpr ⟨member, decide_eq_true known⟩)⟩
    · intro digest member _
      rw [whole.digests]
      exact member
  refine Safe.andThen _ (safe_disclaim documented envId sweeping)
    (fun _ _ _ _ _ wrong => by cases wrong) ?_
  intro _ next _ evicting
  refine Safe.andThen (fun outcome next =>
      match outcome with
      | .ok _ => Evicting listed referenced [] next
      | .error _ => True)
    (Safe.forM (Evicting listed referenced) _ evicting ?_ (fun _ _ evicting => evicting.backed)
      fun _ _ done => done) (fun _ _ _ _ _ wrong => by cases wrong) ?_
  · intro digest rest state _ evicting
    refine (safe_evictBlob documented evicting).mono (fun _ same => same) ?_
    intro outcome next _ reached
    cases outcome with
    | ok _ => exact reached
    | error e => trivial
  intro _ swept _ evicting
  refine (safe_receipt documented envId evicting.backed).mono (fun _ same => same) ?_
  intro outcome last _ written done returned
  obtain ⟨middle, evolved, rfl⟩ := written done returned
  have final := evicting.toSweeping.evolved evolved
  refine ⟨listed, early, final.later, ?_, ?_, ?_⟩
  · intro digest member
    obtain ⟨stored, known⟩ := final.within digest member
    have inside := known.resolve_right List.not_mem_nil
    exact ⟨stored, sound digest inside⟩
  · exact fun digest stored flight => final.keeps digest stored (final.covers digest flight)
  · have listed_last : ({ middle with receipt := some ⟨envId, swept.casDigests⟩ } :
        UpdatesRoot).casDigests = swept.casDigests := evolved.digests
    rw [listed_last]

end Collect

/-- Imports and collections one after the other, each cut off when its inputs end,
with plan changes between them and between their calls. -/
inductive StoreAction where
  | change (changes : List PlanChange)
  | importEnvelope (verify : Verify) (scanned : ScannedEnvelope) (promote : Bool)
      (inputs : List RootInput)
  | casGc (inputs : List RootInput)

def updateStore (crate : UpdateCrate) (sha256 : Bytes → String) (envId : String) :
    System UpdatesRoot StoreAction where
  step root action :=
    match action with
    | .change changes => root.changed crate changes
    | .importEnvelope verify scanned promote inputs =>
      (importImpl verify crate envId scanned promote).run.cut (UpdatesRoot.exec crate sha256) root
        inputs
    | .casGc inputs => (casGcImpl envId).run.cut (UpdatesRoot.exec crate sha256) root inputs
  allowed _ _ := True

theorem backed_fresh : Backed .fresh := ⟨List.nodup_nil, nofun, nofun⟩

theorem backed_step (documented : crate.Documented) (envId : String) {root : UpdatesRoot}
    (backed : Backed root) (action : StoreAction) :
    Backed ((updateStore crate sha256 envId).step root action) := by
  cases action with
  | change changes => exact (backed.changed documented changes).backed
  | importEnvelope verify scanned promote inputs =>
      exact (safe_import documented verify envId scanned promote backed).cut inputs
        fun _ _ => trivial
  | casGc inputs => exact (safe_casGc documented envId backed).cut inputs fun _ _ => trivial

def Collects : RootCall → Prop
  | .list | .load _ | .casList | .casRemove _ | .writeImportReceipt _ => True
  | _ => False

theorem collects_referenced (states : List KeptPlan) :
    (referencedDigests states).run.Only Collects := by
  induction states with
  | nil => trivial
  | cons state rest ih =>
      rw [referencedDigests]
      cases state.stage.isTerminal with
      | true => exact ih
      | false => exact Only.andThen ⟨trivial, fun _ => trivial⟩ fun _ =>
          Only.andThen ih fun _ => trivial

theorem collects_casGc (envId : String) : (casGcImpl envId).run.Only Collects := by
  have one : ∀ {α : Type} {call : RootCall} {sort : call.Reply → Except ImportError α},
      Collects call → (Program.ask call sort : Importing α).run.Only Collects :=
    fun fine => ⟨fine, fun _ => trivial⟩
  refine Only.andThen (one trivial) fun plans => Only.andThen (collects_referenced plans) fun _ =>
    Only.andThen (one trivial) fun _ => Only.andThen ?_ fun _ =>
      Only.andThen (Only.forM _ fun _ => one trivial) fun _ =>
        Only.andThen (one trivial) fun _ => one trivial
  rw [disclaim]
  split
  · trivial
  · exact one trivial

theorem collects_kept {kept : List KeptPlan} {call : RootCall} {state : UpdatesRoot}
    {input : RootInput} (fine : Collects call) (unchanged : input.changes = [])
    (same : state.kept = kept) : (UpdatesRoot.exec crate sha256 input state call).2.kept = kept := by
  rw [UpdatesRoot.exec, unchanged]
  cases call with
  | casRemove digest =>
      simp only [UpdatesRoot.call, UpdatesRoot.wrote]
      split
      · exact same
      · exact same
  | writeImportReceipt receipt =>
      simp only [UpdatesRoot.call, UpdatesRoot.wrote]
      split
      · exact same
      · exact same
  | list => exact same
  | load planId => exact same
  | casList => exact same
  | preflightDigests _ _ => exact fine.elim
  | casGet _ => exact fine.elim
  | casPut _ _ => exact fine.elim
  | stage _ => exact fine.elim
  | beginChecked _ _ _ => exact fine.elim
  | transition _ _ => exact fine.elim
  | binaryStaged _ _ => exact fine.elim
  | putBinaryBlob _ _ _ => exact fine.elim
  | putArtifact _ _ _ => exact fine.elim

/-- A collection's own calls leave the plans as they are. -/
theorem casGc_kept (envId : String) (root : UpdatesRoot) {inputs : List RootInput}
    (quiet : ∀ input ∈ inputs, input.changes = []) :
    ((casGcImpl envId).run.cut (UpdatesRoot.exec crate sha256) root inputs).kept = root.kept := by
  have safe : (casGcImpl envId).run.Safe (UpdatesRoot.exec crate sha256)
      (fun input => input.changes = []) (fun next => next.kept = root.kept)
      (fun _ next => next.kept = root.kept) root := by
    refine (collects_casGc envId).safe ?_ rfl
    intro call state input fine unchanged same
    exact collects_kept fine unchanged same
  exact safe.cut inputs quiet

/-- In every run the receipt and the plans in flight are backed by blobs. A collection
that returns has left what the plans in flight when it listed them reference, and, where
no plan changed meanwhile, exactly what those in flight at its end do. -/
theorem receipts_never_over_claim (crate : UpdateCrate) (documented : crate.Documented)
    (sha256 : Bytes → String) (envId : String) (actions : List StoreAction) :
    let root := (updateStore crate sha256 envId).run .fresh actions
    (∀ receipt, root.receipt = some receipt → receipt.heldDigests ⊆ root.casDigests) ∧
      (∀ kept ∈ root.kept, kept.stage.isTerminal = false →
        kept.verified.digests ⊆ root.casDigests) ∧
      ∀ inputs, (casGcImpl envId).run.outcome (UpdatesRoot.exec crate sha256) root inputs =
          some (.ok ()) →
        let left := (casGcImpl envId).run.cut (UpdatesRoot.exec crate sha256) root inputs
        left.receipt = some ⟨envId, left.casDigests⟩ ∧
          (∃ listed, Later root listed ∧ Later listed left ∧
            (∀ digest ∈ left.casDigests, digest ∈ root.casDigests ∧ Referenced listed digest) ∧
            ∀ digest ∈ root.casDigests, Referenced left digest → digest ∈ left.casDigests) ∧
          ((∀ input ∈ inputs, input.changes = []) → ∀ digest,
            digest ∈ left.casDigests ↔ digest ∈ root.casDigests ∧ Referenced left digest) := by
  intro root
  have backed : Backed root := (updateStore crate sha256 envId).run_invariant Backed
    (fun state action _ backed => backed_step documented envId backed action) .fresh actions
    ((updateStore crate sha256 envId).admits_of_allowed (fun _ _ => trivial) _ actions)
    backed_fresh
  refine ⟨backed.receipt, backed.plans, fun inputs returned => ?_⟩
  obtain ⟨listed, evolved, collected⟩ := (safe_casGc documented envId backed).outcome inputs
    (fun _ _ => trivial) returned () rfl
  have digests := evolved.digests
  refine ⟨collected.receipt, ⟨listed, evolved.later, collected.later, ?_, ?_⟩, ?_⟩
  · rw [← digests]
    exact collected.within
  · rw [← digests]
    exact collected.keeps
  · intro quiet digest
    have same : ((casGcImpl envId).run.cut (UpdatesRoot.exec crate sha256) root inputs).kept =
        root.kept := casGc_kept envId root quiet
    rw [← digests]
    constructor
    · intro member
      obtain ⟨stored, kept, inside, active, referenced⟩ := collected.within digest member
      obtain ⟨before, early, verified, running⟩ := evolved.later kept inside
      refine ⟨stored, before, same ▸ early, running active, ?_⟩
      rw [verified]
      exact referenced
    · exact fun found => collected.keeps digest found.1 found.2

def blobPlan : VerifiedUpdatePlan :=
  ⟨⟨"next", "local", 5, "next-sha", "local", [], [⟨"pack", "blob"⟩]⟩, []⟩

def blobEnvelope : ScannedEnvelope := ⟨"plan", "sig", [("blob", "blob")]⟩

def quietly (calls : Nat) : List RootInput := List.replicate calls ⟨[], .done⟩

def importsBlob : List StoreAction :=
  [.importEnvelope (fun _ _ => some blobPlan) blobEnvelope false (quietly 20)]

def afterImport : UpdatesRoot := (updateStore sampleCrate id "local").run .fresh importsBlob

def collectsFrom (inputs : List RootInput) : UpdatesRoot :=
  (casGcImpl "local").run.cut (UpdatesRoot.exec sampleCrate id) afterImport inputs

theorem quiet_collection_is_exact :
    "blob" ∈ (collectsFrom (quietly 5)).casDigests ↔
      "blob" ∈ afterImport.casDigests ∧ Referenced (collectsFrom (quietly 5)) "blob" :=
  ((receipts_never_over_claim sampleCrate sampleCrate_documented id "local" importsBlob).2.2
    (quietly 5) (by decide)).2.2 (by decide) "blob"

def rejectedMeanwhile : List RootInput :=
  quietly 4 ++ [⟨[.transition "next" .rejected], .done⟩]

theorem collection_leaves_ended_plans_blobs :
    (casGcImpl "local").run.outcome (UpdatesRoot.exec sampleCrate id) afterImport
        rejectedMeanwhile = some (.ok ()) ∧
      "blob" ∈ (collectsFrom rejectedMeanwhile).casDigests ∧
      ¬ Referenced (collectsFrom rejectedMeanwhile) "blob" := by
  refine ⟨by decide, by decide, ?_⟩
  rintro ⟨kept, member, active, -⟩
  have ended : ∀ kept ∈ (collectsFrom rejectedMeanwhile).kept,
      kept.stage.isTerminal = true := by decide
  rw [ended kept member] at active
  cases active

end GreenticDeployer.Updates
