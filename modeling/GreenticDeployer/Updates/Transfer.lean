import GreenticDeployer.Lib.Results
import GreenticDeployer.Updates.Receipts

/-!
# Transfer across an airgap

`export` packs a kept plan and its blobs into an envelope, and `import` takes it
in on the other side. The two have their own rules on the plan's address and on
the blobs that must be there.
-/

set_option maxHeartbeats 200000

namespace GreenticDeployer.Updates

open Lib Program

inductive ExportError where
  | notFound (planId : PlanId)
  | downloading (planId : PlanId)
  | unknownBlob (digest : String)
  | ambiguousBlob (digest : String)
  | receiptSigMissing
  | receiptUnverified
  | receiptNames (receiptEnv envId : String)
  | missing (digests : List String)
  deriving DecidableEq, Repr

structure ExportRequest where
  envId : String
  planId : PlanId
  baseReceipt : Option Bytes
  baseReceiptSig : Option Bytes
  targets : List String
  binaryBlobs : List Bytes
  deriving DecidableEq, Repr

structure EnvelopeBlob where
  digest : String
  bytes : Bytes
  target : Option String
  deriving DecidableEq, Repr

/-- What is handed to the envelope builder. -/
structure EnvelopeContent where
  planBytes : Bytes
  sigBytes : Bytes
  blobs : List EnvelopeBlob
  deriving DecidableEq, Repr

/-- The update crate's check of a receipt's bytes against a signature. -/
abbrev VerifyReceipt := Bytes → Bytes → Option ImportReceipt

def loadExportable (root : UpdatesRoot) (planId : PlanId) : Except ExportError KeptPlan :=
  match root.find planId with
  | none => .error (.notFound planId)
  | some staged =>
    if staged.stage = .downloading then .error (.downloading planId) else .ok staged

/-- Binaries handed in as files, each of them one of the plan's, and none twice. -/
def injectBinaries (sha256 : Bytes → String) :
    List Bytes → List String → KeptPlan → Except ExportError KeptPlan
  | [], _, staged => .ok staged
  | bytes :: rest, seen, staged =>
    if sha256 bytes ∉ staged.verified.binaries.map (·.digest) then
      .error (.unknownBlob (sha256 bytes))
    else if sha256 bytes ∈ seen then .error (.ambiguousBlob (sha256 bytes))
    else injectBinaries sha256 rest (sha256 bytes :: seen)
      { staged with binaryBlobs := (sha256 bytes, bytes) :: staged.binaryBlobs }

def verifyBase (verifyReceipt : VerifyReceipt) (envId : String) (receipt sig : Bytes) :
    Except ExportError (List String) :=
  match verifyReceipt receipt sig with
  | none => .error .receiptUnverified
  | some receipt =>
    if receipt.envId ≠ envId then .error (.receiptNames receipt.envId envId)
    else .ok receipt.heldDigests

def heldDigests (verifyReceipt : VerifyReceipt) (request : ExportRequest) :
    Except ExportError (List String) :=
  match request.baseReceipt, request.baseReceiptSig with
  | none, _ => .ok []
  | some _, none => .error .receiptSigMissing
  | some receipt, some sig => verifyBase verifyReceipt request.envId receipt sig

def PlanBinary.wanted (binary : PlanBinary) (targets : List String) : Prop :=
  targets = [] ∨ binary.target ∈ targets

instance (binary : PlanBinary) (targets : List String) : Decidable (binary.wanted targets) :=
  inferInstanceAs (Decidable (_ ∨ _))

/-- A blob as it lies in the staging tree, or the digest that misses it. -/
def collect (blobs : List (String × Bytes)) (digest : String) (target : Option String) :
    Except String EnvelopeBlob :=
  match blobs.find? fun entry => entry.1 = digest with
  | some entry => .ok ⟨digest, entry.2, target⟩
  | none => .error digest

def collectBlobs (staged : KeptPlan) (held targets : List String) :
    List (Except String EnvelopeBlob) :=
  (staged.verified.plan.artifacts.filter (·.digest ∉ held)).map
      (fun artifact => collect staged.artifactBlobs artifact.digest none) ++
    (staged.verified.binaries.filter fun binary =>
        binary.digest ∉ held ∧ binary.wanted targets).map
      fun binary => collect staged.binaryBlobs binary.digest (some binary.target)

def missed : Except String EnvelopeBlob → Option String
  | .ok _ => none
  | .error digest => some digest

/-- All are there, or those that miss are named. -/
def packBlobs (found : List (Except String EnvelopeBlob)) :
    Except ExportError (List EnvelopeBlob) :=
  match found.filterMap missed with
  | [] => .ok (found.filterMap Except.toOption)
  | missing => .error (.missing missing)

/-- `op updates export`, to the envelope that `build` makes of the content. -/
def exportImpl {Envelope : Type} (build : EnvelopeContent → Envelope) (sha256 : Bytes → String)
    (verifyReceipt : VerifyReceipt) (root : UpdatesRoot) (request : ExportRequest) :
    Except ExportError Envelope := do
  let loaded ← loadExportable root request.planId
  let staged ← injectBinaries sha256 request.binaryBlobs [] loaded
  let held ← heldDigests verifyReceipt request
  let blobs ← packBlobs (collectBlobs staged held request.targets)
  return build ⟨staged.planBytes, staged.sigBytes, blobs⟩

/-- The digests that the filter lets through. -/
def exportedDigests (verified : VerifiedUpdatePlan) (targets : List String) : List String :=
  verified.plan.artifacts.map (·.digest) ++
    (verified.binaries.filter fun binary => binary.wanted targets).map (·.digest)

/-- The blobs in the staging tree have their digests. -/
def KeptPlan.Intact (sha256 : Bytes → String) (staged : KeptPlan) : Prop :=
  ∀ entry ∈ staged.artifactBlobs ++ staged.binaryBlobs, sha256 entry.2 = entry.1

theorem injectBinaries_keeps {sha256 : Bytes → String} {files : List Bytes} {seen : List String}
    {loaded staged : KeptPlan} (injected : injectBinaries sha256 files seen loaded = .ok staged) :
    staged.verified = loaded.verified ∧ staged.planBytes = loaded.planBytes ∧
      staged.sigBytes = loaded.sigBytes ∧ (loaded.Intact sha256 → staged.Intact sha256) := by
  induction files generalizing seen loaded with
  | nil =>
      cases injected
      exact ⟨rfl, rfl, rfl, id⟩
  | cons bytes rest ih =>
      unfold injectBinaries at injected
      split at injected
      · cases injected
      · split at injected
        · cases injected
        · obtain ⟨verified, planBytes, sigBytes, intact⟩ := ih injected
          refine ⟨verified, planBytes, sigBytes, fun before => intact fun entry member => ?_⟩
          rcases List.mem_append.mp member with artifact | binary
          · exact before entry (List.mem_append_left _ artifact)
          · rcases List.mem_cons.mp binary with rfl | old
            · rfl
            · exact before entry (List.mem_append_right _ old)

theorem collect_ok {blobs : List (String × Bytes)} {digest : String} {target : Option String}
    {blob : EnvelopeBlob} (found : collect blobs digest target = .ok blob) :
    blob.digest = digest ∧ (digest, blob.bytes) ∈ blobs := by
  unfold collect at found
  cases located : blobs.find? fun entry => entry.1 = digest with
  | none => simp [located] at found
  | some entry =>
      simp only [located, Except.ok.injEq] at found
      have named : entry.1 = digest := by simpa using List.find?_some located
      subst found
      exact ⟨rfl, named ▸ List.mem_of_find?_eq_some located⟩

theorem packBlobs_ok {found : List (Except String EnvelopeBlob)} {blobs : List EnvelopeBlob}
    (packed : packBlobs found = .ok blobs) :
    (∀ blob, blob ∈ blobs ↔ .ok blob ∈ found) ∧ ∀ digest, .error digest ∉ found := by
  unfold packBlobs at packed
  split at packed
  · rename_i complete
    cases packed
    refine ⟨fun blob => ?_, fun digest member => ?_⟩
    · rw [List.mem_filterMap]
      constructor
      · rintro ⟨one, member, present⟩
        cases one with
        | ok value =>
            cases present
            exact member
        | error digest => cases present
      · exact fun member => ⟨.ok blob, member, rfl⟩
    · have listed : digest ∈ found.filterMap missed := List.mem_filterMap.mpr ⟨_, member, rfl⟩
      rw [complete] at listed
      cases listed
  · cases packed

theorem collected_digest {staged : KeptPlan} {held targets : List String}
    {one : Except String EnvelopeBlob} (member : one ∈ collectBlobs staged held targets)
    {blob : EnvelopeBlob} (found : one = .ok blob) :
    (blob.digest, blob.bytes) ∈ staged.artifactBlobs ++ staged.binaryBlobs := by
  subst found
  rcases List.mem_append.mp member with artifact | binary
  · obtain ⟨artifact, -, collected⟩ := List.mem_map.mp artifact
    obtain ⟨same, present⟩ := collect_ok collected
    rw [same]
    exact List.mem_append_left _ present
  · obtain ⟨binary, -, collected⟩ := List.mem_map.mp binary
    obtain ⟨same, present⟩ := collect_ok collected
    rw [same]
    exact List.mem_append_right _ present

theorem mem_collected {staged : KeptPlan} {held targets : List String} {digest : String} :
    (∃ one ∈ collectBlobs staged held targets,
      one = .error digest ∨ ∃ blob, one = .ok blob ∧ blob.digest = digest) ↔
    digest ∈ exportedDigests staged.verified targets ∧ digest ∉ held := by
  have named : ∀ (blobs : List (String × Bytes)) (other : String) (target : Option String),
      (collect blobs other target = .error digest ∨
        ∃ blob, collect blobs other target = .ok blob ∧ blob.digest = digest) ↔
      other = digest := by
    intro blobs other target
    unfold collect
    cases blobs.find? fun entry => entry.1 = other with
    | none => simp
    | some entry => simp
  simp only [collectBlobs, exportedDigests, List.mem_append, List.mem_map, List.mem_filter,
    decide_eq_true_eq]
  constructor
  · rintro ⟨one, ⟨artifact, ⟨inside, missing⟩, rfl⟩ | ⟨binary, ⟨inside, missing, wanted⟩, rfl⟩,
      shape⟩
    · have same := (named _ _ _).mp shape
      exact ⟨.inl ⟨artifact, inside, same⟩, same ▸ missing⟩
    · have same := (named _ _ _).mp shape
      exact ⟨.inr ⟨binary, ⟨inside, wanted⟩, same⟩, same ▸ missing⟩
  · rintro ⟨⟨artifact, inside, rfl⟩ | ⟨binary, ⟨inside, wanted⟩, rfl⟩, missing⟩
    · exact ⟨_, .inl ⟨artifact, ⟨inside, missing⟩, rfl⟩, (named _ _ _).mpr rfl⟩
    · exact ⟨_, .inr ⟨binary, ⟨inside, missing, wanted⟩, rfl⟩, (named _ _ _).mpr rfl⟩

structure Packs (sha256 : Bytes → String) (staged : KeptPlan) (held targets : List String)
    (content : EnvelopeContent) : Prop where
  planBytes : content.planBytes = staged.planBytes
  sigBytes : content.sigBytes = staged.sigBytes
  sound : staged.Intact sha256 → ∀ blob ∈ content.blobs, sha256 blob.bytes = blob.digest
  digests : ∀ digest, digest ∈ content.blobs.map (·.digest) ↔
    digest ∈ exportedDigests staged.verified targets ∧ digest ∉ held

theorem exportImpl_ok {Envelope : Type} {build : EnvelopeContent → Envelope}
    {sha256 : Bytes → String} {verifyReceipt : VerifyReceipt} {root : UpdatesRoot}
    {request : ExportRequest} {envelope : Envelope}
    (written : exportImpl build sha256 verifyReceipt root request = .ok envelope) :
    ∃ staged held content, root.find request.planId = some staged ∧
      heldDigests verifyReceipt request = .ok held ∧ envelope = build content ∧
      Packs sha256 staged held request.targets content := by
  unfold exportImpl at written
  obtain ⟨loaded, exportable, written⟩ := bind_ok written
  obtain ⟨staged, injected, written⟩ := bind_ok written
  obtain ⟨held, based, written⟩ := bind_ok written
  obtain ⟨blobs, packed, written⟩ := bind_ok written
  cases pure_ok written
  have found : root.find request.planId = some loaded := by
    unfold loadExportable at exportable
    split at exportable
    · cases exportable
    · rename_i there
      split at exportable
      · cases exportable
      · cases exportable
        exact there
  obtain ⟨verified, planBytes, sigBytes, intact⟩ := injectBinaries_keeps injected
  obtain ⟨carried, complete⟩ := packBlobs_ok packed
  refine ⟨loaded, held, _, found, based, rfl, planBytes, sigBytes, ?_, ?_⟩
  · intro before blob member
    exact intact before _ (collected_digest ((carried blob).mp member) rfl)
  · intro digest
    rw [← verified, ← mem_collected, List.mem_map]
    constructor
    · rintro ⟨blob, member, rfl⟩
      exact ⟨_, (carried blob).mp member, .inr ⟨blob, rfl, rfl⟩⟩
    · rintro ⟨one, member, rfl | ⟨blob, rfl, rfl⟩⟩
      · exact absurd member (complete digest)
      · exact ⟨blob, (carried blob).mpr member, rfl⟩

section Undisturbed

variable (crate : UpdateCrate) (sha256 : Bytes → String)

/-- Each call is done, and nothing else happens on the root. -/
def undisturbed (_ : Unit) (root : UpdatesRoot) (call : RootCall) : call.Reply × UpdatesRoot :=
  root.call crate sha256 .done call

abbrev EndsAt {α : Type} (post : Except ImportError α → UpdatesRoot → Prop)
    (program : Importing α) (root : UpdatesRoot) : Prop :=
  Ends (undisturbed crate sha256) post program root

end Undisturbed

variable {crate : UpdateCrate} {sha256 : Bytes → String}

theorem mem_casDigests_of_casGet {root : UpdatesRoot} {digest : String}
    (held : (root.casGet sha256 digest).isSome) : digest ∈ root.casDigests := by
  unfold UpdatesRoot.casGet at held
  cases found : root.cas.find? fun entry => entry.1 = digest with
  | none => simp [found] at held
  | some entry =>
      have named : entry.1 = digest := by simpa using List.find?_some found
      exact named ▸ List.mem_map_of_mem (List.mem_of_find?_eq_some found)

theorem casGet_sound {root : UpdatesRoot} {digest : String}
    (held : (root.casGet sha256 digest).isSome) :
    ∃ bytes, root.casGet sha256 digest = some bytes ∧ sha256 bytes = digest := by
  obtain ⟨bytes, found⟩ := Option.isSome_iff_exists.mp held
  obtain ⟨-, sound⟩ := Option.filter_eq_some_iff.mp found
  exact ⟨bytes, found, of_decide_eq_true sound⟩

theorem casGet_putCas {root : UpdatesRoot} {digest : String} {bytes : Bytes}
    (sound : sha256 bytes = digest) (other : String) :
    (root.putCas digest bytes).casGet sha256 other =
      if other = digest then some bytes else root.casGet sha256 other := by
  by_cases same : other = digest
  · subst same
    simp [UpdatesRoot.casGet, UpdatesRoot.putCas, sound]
  · have apart : ¬ digest = other := fun equal => same equal.symm
    have others : (root.cas.filter fun entry => entry.1 ≠ digest).find? (fun entry =>
        entry.1 = other) = root.cas.find? fun entry => entry.1 = other := by
      rw [List.find?_filter]
      congr 1
      funext entry
      by_cases named : entry.1 = other
      · simp [named, same]
      · simp [named]
    simp only [UpdatesRoot.casGet, UpdatesRoot.putCas, if_neg same]
    rw [List.find?_cons_of_neg (by simpa using apart), others]

theorem find_revise {root : UpdatesRoot} {planId : PlanId} {kept : KeptPlan}
    (found : root.find planId = some kept) {f : KeptPlan → KeptPlan}
    (same : (f kept).planId = kept.planId) :
    (root.revise planId f).find planId = some (f kept) := by
  obtain ⟨located, found_at, rfl⟩ := find_locate found
  have named := (mem_of_find found).2
  rw [UpdatesRoot.revise, found_at]
  exact Located.find?_replace found_at (by simpa using same.trans named)

theorem revise_cas (root : UpdatesRoot) (planId : PlanId) (f : KeptPlan → KeptPlan) :
    (root.revise planId f).cas = root.cas := by
  unfold UpdatesRoot.revise
  split <;> rfl

theorem ends_corrupted (carried digests : List String) (root : UpdatesRoot) :
    EndsAt crate sha256 (fun outcome next => next = root ∧ outcome = .ok (digests.filter
        fun digest => digest ∉ carried ∧ (root.casGet sha256 digest).isNone))
      (corrupted carried digests) root := by
  induction digests with
  | nil => exact .pure ⟨rfl, rfl⟩
  | cons digest rest ih =>
      rw [corrupted]
      by_cases inside : digest ∈ carried
      · rw [if_pos inside]
        refine ih.mono fun outcome next ended => ⟨ended.1, ?_⟩
        rw [ended.2, List.filter_cons_of_neg (by simp [inside])]
      · rw [if_neg inside]
        have held : EndsAt crate sha256 (fun outcome next => next = root ∧
            outcome = .ok (root.casGet sha256 digest)) (Program.ask (.casGet digest) .ok) root :=
          .ask fun _ => ⟨rfl, by simp [undisturbed, UpdatesRoot.call, Turn.reply]⟩
        refine held.read (ih.read (.pure ⟨rfl, ?_⟩))
        cases unreadable : (root.casGet sha256 digest).isNone with
        | true => simp only [List.filter_cons, inside, unreadable, not_false_eq_true, and_self,
            decide_true, if_true]
        | false => simp only [List.filter_cons, unreadable, Bool.false_eq_true, and_false,
            decide_false, if_false]

/-- Every digest is in the envelope, or its blob can be read back. -/
def Available (sha256 : Bytes → String) (root : UpdatesRoot) (verified : VerifiedUpdatePlan)
    (carried : List String) : Prop :=
  ∀ digest ∈ verified.digests, digest ∈ carried ∨ (root.casGet sha256 digest).isSome

theorem ends_checkBlobs (verified : VerifiedUpdatePlan) (carried : List String)
    (root : UpdatesRoot) :
    EndsAt crate sha256 (fun outcome next => next = root ∧
        (outcome = .ok () ↔ Available sha256 root verified carried))
      (checkBlobs verified carried) root := by
  unfold checkBlobs
  by_cases listed : verified.digests.all fun digest =>
      digest ∈ carried ∨ digest ∈ root.casDigests
  · have passes : EndsAt crate sha256 (fun outcome next => next = root ∧ outcome = .ok ())
        (Program.ask (.preflightDigests verified.digests carried) (orElse .preflight)) root :=
      .ask fun _ => ⟨rfl, by
        simp only [undisturbed, UpdatesRoot.call, if_pos listed, Turn.reply, orElse]⟩
    refine passes.read ((ends_corrupted carried verified.digests root).read ?_)
    have complete : verified.digests.filter (fun digest => digest ∉ carried ∧
        (root.casGet sha256 digest).isNone) = [] ↔ Available sha256 root verified carried := by
      rw [List.filter_eq_nil_iff]
      refine forall₂_congr fun digest _ => ?_
      cases (root.casGet sha256 digest) <;> simp
    by_cases clean : verified.digests.filter (fun digest => digest ∉ carried ∧
        (root.casGet sha256 digest).isNone) = []
    · rw [if_pos clean]
      exact .pure ⟨rfl, iff_of_true rfl (complete.mp clean)⟩
    · rw [if_neg clean]
      exact .throw ⟨rfl, iff_of_false (fun same => by cases same)
        fun available => clean (complete.mpr available)⟩
  · refine Ends.andThen (fun outcome next => next = root ∧ outcome = .error .preflight)
      (.ask fun _ => ⟨rfl, by
        simp only [undisturbed, UpdatesRoot.call, if_neg listed, orElse]⟩) ?_
      (fun _ _ failed => by cases failed.2)
    rintro e next ⟨rfl, -⟩
    refine ⟨rfl, iff_of_false (fun same => by cases same) fun available => listed ?_⟩
    refine List.all_eq_true.mpr fun digest member => decide_eq_true ?_
    exact (available digest member).imp_right mem_casDigests_of_casGet

structure Landed (sha256 : Bytes → String) (planId : PlanId) (planBytes sigBytes : Bytes)
    (stock : List String) (stage : UpdateStage) (root : UpdatesRoot) : Prop where
  kept : ∃ kept, root.find planId = some kept ∧ kept.planBytes = planBytes ∧
    kept.sigBytes = sigBytes ∧ kept.stage = stage
  stock : ∀ digest ∈ stock, (root.casGet sha256 digest).isSome

section Landed

variable {planId : PlanId} {planBytes sigBytes : Bytes} {stock : List String} {stage : UpdateStage}
  {root : UpdatesRoot}

theorem Landed.revise (landed : Landed sha256 planId planBytes sigBytes stock stage root)
    {f : KeptPlan → KeptPlan} {reached : UpdateStage}
    (same : ∀ kept, (f kept).planId = kept.planId ∧ (f kept).planBytes = kept.planBytes ∧
      (f kept).sigBytes = kept.sigBytes ∧ (kept.stage = stage → (f kept).stage = reached)) :
    Landed sha256 planId planBytes sigBytes stock reached (root.revise planId f) := by
  obtain ⟨kept, found, plan, sig, at_stage⟩ := landed.kept
  obtain ⟨ids, plans, sigs, moves⟩ := same kept
  refine ⟨⟨f kept, find_revise found ids, plans.trans plan, sigs.trans sig, moves at_stage⟩, ?_⟩
  intro digest member
  rw [UpdatesRoot.casGet, revise_cas]
  exact landed.stock digest member

theorem ends_stage (landed : Landed sha256 planId planBytes sigBytes stock stage root) :
    EndsAt crate sha256 (fun outcome next => next = root ∧ outcome = .ok stage)
      (Program.ask (.stage planId) (orElse .stage)) root := by
  obtain ⟨kept, found, -, -, at_stage⟩ := landed.kept
  refine .ask fun _ => ⟨rfl, ?_⟩
  simp [undisturbed, UpdatesRoot.call, found, Turn.reply, orElse, at_stage]

theorem ends_advance (landed : Landed sha256 planId planBytes sigBytes stock stage root)
    {target : UpdateStage} (legal : crate.legal stage target = true) :
    EndsAt crate sha256 (fun outcome next => outcome = .ok target ∧
        Landed sha256 planId planBytes sigBytes stock target next) (advance planId target) root := by
  obtain ⟨kept, found, -, -, at_stage⟩ := landed.kept
  refine .ask fun _ => ?_
  simp only [undisturbed, UpdatesRoot.call, found, at_stage, legal, if_true, Turn.reply,
    Turn.effective, orElse]
  exact ⟨trivial, landed.revise fun _ => ⟨rfl, rfl, rfl, fun _ => rfl⟩⟩

theorem Landed.putBlob (landed : Landed sha256 planId planBytes sigBytes stock .downloading root)
    {digest : String} {bytes : Bytes} (sound : sha256 bytes = digest) (e : ImportError)
    {put : KeptPlan → KeptPlan}
    (same : ∀ kept, (put kept).planId = kept.planId ∧ (put kept).planBytes = kept.planBytes ∧
      (put kept).sigBytes = kept.sigBytes ∧ (put kept).stage = kept.stage) :
    Either (Landed sha256 planId planBytes sigBytes stock .downloading) (fun _ _ => False)
      (orElse e (root.putBlob sha256 .done planId digest bytes put).1)
      (root.putBlob sha256 .done planId digest bytes put).2 := by
  obtain ⟨kept, found, -, -, at_stage⟩ := landed.kept
  simp only [UpdatesRoot.putBlob, found, at_stage, sound, and_self, if_true, UpdatesRoot.wrote,
    Turn.reply, Turn.effective, orElse]
  refine landed.revise fun other => ?_
  obtain ⟨ids, plans, sigs, stages⟩ := same other
  exact ⟨ids, plans, sigs, stages.trans⟩

theorem ends_casGet (landed : Landed sha256 planId planBytes sigBytes stock stage root)
    {digest : String} (member : digest ∈ stock) (e : ImportError) :
    EndsAt crate sha256 (fun outcome next => next = root ∧
        ∃ bytes, outcome = .ok bytes ∧ sha256 bytes = digest)
      (Program.ask (.casGet digest) (orElse e)) root := by
  obtain ⟨bytes, found, sound⟩ := casGet_sound (landed.stock digest member)
  refine .ask fun _ => ⟨rfl, bytes, ?_, sound⟩
  simp [undisturbed, UpdatesRoot.call, found, Turn.reply, orElse]

theorem ends_stageArtifact {artifact : PlanArtifact} (member : artifact.digest ∈ stock)
    (landed : Landed sha256 planId planBytes sigBytes stock .downloading root) :
    EndsAt crate sha256
      (Either (Landed sha256 planId planBytes sigBytes stock .downloading) fun _ _ => False)
      (stageArtifact planId artifact) root := by
  refine Ends.andThen _ (ends_casGet landed member _) (fun _ _ failed => by
    obtain ⟨-, bytes, wrong, -⟩ := failed
    cases wrong) ?_
  rintro bytes next ⟨rfl, _, read, sound⟩
  cases read
  exact .ask fun _ => landed.putBlob sound _ fun _ => ⟨rfl, rfl, rfl, rfl⟩

theorem ends_stageBinary {binary : PlanBinary} (member : binary.digest ∈ stock)
    (landed : Landed sha256 planId planBytes sigBytes stock .downloading root) :
    EndsAt crate sha256
      (Either (Landed sha256 planId planBytes sigBytes stock .downloading) fun _ _ => False)
      (stageBinary planId binary) root := by
  refine Ends.andThen (fun outcome next => next = root ∧ ∃ staged, outcome = .ok staged)
    (.ask fun _ => ⟨rfl, _, rfl⟩) (fun _ _ failed => by
      obtain ⟨-, staged, wrong⟩ := failed
      cases wrong) ?_
  rintro staged next ⟨rfl, -⟩
  cases staged with
  | true => exact .pure landed
  | false =>
      refine Ends.andThen _ (ends_casGet landed member _) (fun _ _ failed => by
        obtain ⟨-, bytes, wrong, -⟩ := failed
        cases wrong) ?_
      rintro bytes next ⟨rfl, _, read, sound⟩
      cases read
      exact .ask fun _ => landed.putBlob sound _ fun _ => ⟨rfl, rfl, rfl, rfl⟩

theorem ends_stageBinaries {binaries : List PlanBinary}
    (stocked : ∀ binary ∈ binaries, binary.digest ∈ stock)
    (landed : Landed sha256 planId planBytes sigBytes stock stage root) :
    EndsAt crate sha256
      (Either (Landed sha256 planId planBytes sigBytes stock stage) fun _ _ => False)
      (stageBinaries planId binaries) root := by
  refine (ends_stage landed).read ?_
  by_cases downloading : stage = .downloading
  · subst downloading
    rw [if_pos rfl]
    exact Ends.loop binaries landed fun binary member _ held =>
      ends_stageBinary (stocked binary member) held
  · rw [if_neg downloading]
    exact .pure landed

/-- The crate lets an import go through its stages. -/
structure UpdateCrate.Promotes (crate : UpdateCrate) : Prop where
  inbox : crate.legal .downloading .inbox = true
  staged : crate.legal .inbox .staged = true

def UpdateStage.Admitted (stage : UpdateStage) : Prop :=
  stage ≠ .downloading ∧ stage ≠ .failed ∧ stage ≠ .rejected

theorem ends_stageArtifacts (promotes : crate.Promotes) {artifacts : List PlanArtifact}
    (stocked : ∀ artifact ∈ artifacts, artifact.digest ∈ stock) (promote : Bool)
    (open_stage : stage ≠ .failed ∧ stage ≠ .rejected)
    (landed : Landed sha256 planId planBytes sigBytes stock stage root) :
    EndsAt crate sha256 (fun outcome next => ∃ reached, outcome = .ok reached ∧
        reached.Admitted ∧ Landed sha256 planId planBytes sigBytes stock reached next)
      (stageArtifacts planId artifacts promote) root := by
  refine (ends_stage landed).read ?_
  by_cases downloading : stage = .downloading
  · subst downloading
    rw [if_pos rfl]
    refine Ends.sure (Ends.loop artifacts landed fun artifact member _ held =>
      ends_stageArtifact (stocked artifact member) held) fun _ next landed => ?_
    refine Ends.andThen _ (ends_advance landed promotes.inbox)
      (fun _ _ failed => by cases failed.1) ?_
    rintro reached next ⟨moved, landed⟩
    cases moved
    cases promote with
    | false => exact .pure ⟨.inbox, rfl, by simp [UpdateStage.Admitted], landed⟩
    | true =>
        exact (ends_advance landed promotes.staged).mono fun outcome next ended =>
          ⟨.staged, ended.1, by simp [UpdateStage.Admitted], ended.2⟩
  · rw [if_neg downloading]
    by_cases inbox : stage = .inbox ∧ promote = true
    · rw [if_pos inbox]
      obtain ⟨rfl, -⟩ := inbox
      exact (ends_advance landed promotes.staged).mono fun outcome next ended =>
        ⟨.staged, ended.1, by simp [UpdateStage.Admitted], ended.2⟩
    · rw [if_neg inbox]
      exact .pure ⟨stage, rfl, ⟨downloading, open_stage⟩, landed⟩

theorem ends_receipt (envId : String)
    (landed : Landed sha256 planId planBytes sigBytes stock stage root) :
    EndsAt crate sha256
      (Either (Landed sha256 planId planBytes sigBytes stock stage) fun _ _ => False)
      (signAndWriteReceipt envId) root := by
  refine Ends.andThen (fun outcome next => next = root ∧ ∃ listed, outcome = .ok listed)
    (.ask fun _ => ⟨rfl, _, rfl⟩) (fun _ _ failed => by
      obtain ⟨-, listed, wrong⟩ := failed
      cases wrong) ?_
  rintro listed next ⟨rfl, -⟩
  exact .ask fun _ => ⟨landed.kept, landed.stock⟩

end Landed

/-- The plans are as before, and no digest that could be read back is lost. -/
structure Stocked (sha256 : Bytes → String) (root : UpdatesRoot) (missing : List String)
    (carried : List String) (next : UpdatesRoot) : Prop where
  kept : next.kept = root.kept
  held : ∀ digest, (root.casGet sha256 digest).isSome → (next.casGet sha256 digest).isSome
  carried : ∀ digest ∈ carried, digest ∈ missing ∨ (next.casGet sha256 digest).isSome

theorem ends_importBlobs {blobs : List (String × Bytes)}
    (sound : ∀ blob ∈ blobs, sha256 blob.2 = blob.1) (root : UpdatesRoot) :
    EndsAt crate sha256 (Either (Stocked sha256 root [] (blobs.map Prod.fst)) fun _ _ => False)
      (blobs.forM importBlob) root := by
  let loop := fun (rest : List (String × Bytes)) (next : UpdatesRoot) =>
    rest ⊆ blobs ∧ Stocked sha256 root (rest.map Prod.fst) (blobs.map Prod.fst) next
  have looped : EndsAt crate sha256 (Either (loop []) fun _ _ => False) (blobs.forM importBlob)
      root := by
    refine Ends.forM loop blobs
      ⟨List.Subset.refl _, rfl, fun _ held => held, fun _ member => .inl member⟩ ?_
    rintro blob rest state ⟨inside, stocked⟩
    have matching := sound blob (inside List.mem_cons_self)
    refine .ask fun _ => ?_
    simp only [undisturbed, UpdatesRoot.call, if_pos matching, UpdatesRoot.wrote, Turn.reply,
      Turn.effective, orElse, if_true]
    have kept_held : ∀ digest, (state.casGet sha256 digest).isSome →
        ((state.putCas blob.1 blob.2).casGet sha256 digest).isSome := by
      intro digest held
      rw [casGet_putCas matching]
      split
      · rfl
      · exact held
    refine ⟨fun other member => inside (List.mem_cons_of_mem _ member), stocked.kept,
      fun digest held => kept_held digest (stocked.held digest held), fun digest member => ?_⟩
    rcases stocked.carried digest member with missing | held
    · rcases List.mem_cons.mp missing with rfl | later
      · right
        rw [casGet_putCas matching, if_pos rfl]
        rfl
      · exact .inl later
    · exact .inr (kept_held digest held)
  refine looped.mono fun outcome next ended => ?_
  cases outcome with
  | ok _ => exact ended.2
  | error e => exact ended

def Admits (crate : UpdateCrate) (root : UpdatesRoot) (verified : VerifiedUpdatePlan) : Prop :=
  match root.find verified.plan.planId with
  | none => checkAdmission crate verified root.kept = .ok ()
  | some existing => existing.verified.plan.planSha256 = verified.plan.planSha256 ∧
      existing.stage ≠ .failed ∧ existing.stage ≠ .rejected ∧
      (existing.stage = .downloading ∨ existing.stage = .inbox →
        checkAdmission crate verified root.kept = .ok ())

def UpdatesRoot.bytesOf (root : UpdatesRoot) (planId : PlanId) (planBytes sigBytes : Bytes) :
    Bytes × Bytes :=
  match root.find planId with
  | none => (planBytes, sigBytes)
  | some existing => (existing.planBytes, existing.sigBytes)

theorem admitPlan_of_checkAdmission {verified : VerifiedUpdatePlan} {records : List KeptPlan}
    (admits : checkAdmission crate verified records = .ok ()) :
    admitPlan crate verified.plan
      (admissionFacts (records.map KeptPlan.record) verified.plan.envId) = .ok () := by
  unfold checkAdmission at admits
  split at admits
  · assumption
  · cases admits

theorem ends_admitOrResume {root : UpdatesRoot} {verified : VerifiedUpdatePlan}
    (planBytes sigBytes : Bytes) {stock : List String}
    (stocked : ∀ digest ∈ stock, (root.casGet sha256 digest).isSome)
    (admits : Admits crate root verified) :
    EndsAt crate sha256 (fun outcome next => outcome = .ok verified.plan.planId ∧
        ∃ stage, stage ≠ .failed ∧ stage ≠ .rejected ∧
          Landed sha256 verified.plan.planId
            (root.bytesOf verified.plan.planId planBytes sigBytes).1
            (root.bytesOf verified.plan.planId planBytes sigBytes).2 stock stage next)
      (admitOrResumeImport crate verified planBytes sigBytes) root := by
  refine Ends.read (.ask fun _ => ⟨rfl, rfl⟩) ?_
  unfold Admits at admits
  unfold UpdatesRoot.bytesOf
  cases found : root.find verified.plan.planId with
  | none =>
      rw [found] at admits
      refine .ask fun _ => ?_
      simp only [undisturbed, UpdatesRoot.call, UpdatesRoot.beginChecked, found,
        admitPlan_of_checkAdmission admits, Turn.effective, if_true, admitted]
      refine ⟨rfl, .downloading, (fun same => by cases same), (fun same => by cases same),
        ⟨⟨verified, planBytes, sigBytes, .downloading, [], []⟩, ?_, rfl, rfl, rfl⟩, stocked⟩
      exact List.find?_cons_of_pos (by simp [KeptPlan.planId])
  | some existing =>
      rw [found] at admits
      obtain ⟨same, unfailed, unrejected, checked⟩ := admits
      have named := (mem_of_find found).2
      have landed : Landed sha256 verified.plan.planId existing.planBytes existing.sigBytes stock
          existing.stage root := ⟨⟨existing, found, rfl, rfl, rfl⟩, stocked⟩
      have goes_on : EndsAt crate sha256 (fun outcome after => after = root ∧
          outcome = .ok verified.plan.planId)
            ((importAdmission crate verified planBytes sigBytes).resume verified.plan.planSha256
              existing) root := by
        unfold Admission.resume importAdmission
        dsimp only
        rw [if_neg (not_not_intro same), named]
        refine (ends_stage landed).read ?_
        have regates : checkAdmission crate verified root.kept = .ok () →
            EndsAt crate sha256 (fun outcome last => last = root ∧ outcome = .ok ())
              (importAdmission crate verified planBytes sigBytes).regate root := by
          intro admits
          refine Ends.read (.ask fun _ => ⟨rfl, rfl⟩) ?_
          rw [admits]
          exact .pure ⟨rfl, rfl⟩
        have rechecks : checkAdmission crate verified root.kept = .ok () →
            EndsAt crate sha256 (fun outcome last => last = root ∧
              outcome = .ok verified.plan.planId)
              (do
                (importAdmission crate verified planBytes sigBytes).regate
                return verified.plan.planId) root :=
          fun admits => (regates admits).read (.pure ⟨rfl, rfl⟩)
        cases stage : existing.stage with
        | downloading => exact rechecks (checked (.inl stage))
        | inbox => exact rechecks (checked (.inr stage))
        | staged => exact .pure ⟨rfl, rfl⟩
        | applying => exact .pure ⟨rfl, rfl⟩
        | applied => exact .pure ⟨rfl, rfl⟩
        | failed => exact absurd stage unfailed
        | rejected => exact absurd stage unrejected
      refine goes_on.mono fun outcome after ended =>
        ⟨ended.2, existing.stage, unfailed, unrejected, ?_⟩
      rw [ended.1]
      exact landed

section Import

variable {verify : Verify} {envId : String} {scanned : ScannedEnvelope} {promote : Bool}
  {verified : VerifiedUpdatePlan} {root : UpdatesRoot}

theorem ends_import_refused
    (trusts : verify scanned.planBytes scanned.sigBytes = some verified)
    (refused : ¬ (checkImportAddress envId verified = .ok () ∧
      Available sha256 root verified (scanned.blobs.map Prod.fst))) :
    EndsAt crate sha256 (fun outcome _ => ∀ stage, outcome ≠ .ok stage)
      (importImpl verify crate envId scanned promote) root := by
  unfold importImpl
  rw [trusts]
  refine Ends.read (.pure ⟨rfl, rfl⟩) ?_
  cases addressed : checkImportAddress envId verified with
  | error e => exact .throw fun _ wrong => by cases wrong
  | ok _ =>
      refine Ends.read (.pure ⟨rfl, rfl⟩) ?_
      refine Ends.andThen _ (ends_checkBlobs verified (scanned.blobs.map Prod.fst) root)
        (fun _ _ _ => nofun) ?_
      intro _ next passed
      exact absurd ⟨addressed, passed.2.mp rfl⟩ refused

theorem ends_import_lands (promotes : crate.Promotes)
    (trusts : verify scanned.planBytes scanned.sigBytes = some verified)
    (sound : ∀ blob ∈ scanned.blobs, sha256 blob.2 = blob.1)
    (admits : Admits crate root verified) (addressed : checkImportAddress envId verified = .ok ())
    (available : Available sha256 root verified (scanned.blobs.map Prod.fst)) {stock : List String}
    (required : verified.digests ⊆ stock)
    (stocked : ∀ digest ∈ stock, digest ∈ scanned.blobs.map Prod.fst ∨
      (root.casGet sha256 digest).isSome) :
    EndsAt crate sha256 (fun outcome next => ∃ reached, outcome = .ok reached ∧
        reached.Admitted ∧ Landed sha256 verified.plan.planId
          (root.bytesOf verified.plan.planId scanned.planBytes scanned.sigBytes).1
          (root.bytesOf verified.plan.planId scanned.planBytes scanned.sigBytes).2 stock reached
          next)
      (importImpl verify crate envId scanned promote) root := by
  unfold importImpl
  rw [trusts]
  refine Ends.read (.pure ⟨rfl, rfl⟩) ?_
  rw [addressed]
  refine Ends.read (.pure ⟨rfl, rfl⟩) ?_
  refine Ends.read ((ends_checkBlobs verified _ root).mono fun _ _ ended =>
    ⟨ended.1, ended.2.mpr available⟩) ?_
  refine (ends_importBlobs sound root).sure fun _ loaded imported => ?_
  have held : ∀ digest ∈ stock, (loaded.casGet sha256 digest).isSome := by
    intro digest member
    rcases stocked digest member with carried | held
    · exact (imported.carried digest carried).resolve_left List.not_mem_nil
    · exact imported.held digest held
  have finds : ∀ planId, loaded.find planId = root.find planId := fun planId => by
    rw [UpdatesRoot.find, imported.kept]
    rfl
  have admits_loaded : Admits crate loaded verified := by
    unfold Admits at admits ⊢
    rw [finds, imported.kept]
    exact admits
  have bytes : loaded.bytesOf verified.plan.planId scanned.planBytes scanned.sigBytes =
      root.bytesOf verified.plan.planId scanned.planBytes scanned.sigBytes := by
    unfold UpdatesRoot.bytesOf
    rw [finds]
  rw [← bytes]
  refine Ends.andThen _ (ends_admitOrResume _ _ held admits_loaded)
    (fun _ _ failed => by cases failed.1) ?_
  rintro planId next ⟨named, stage, unfailed, unrejected, landed⟩
  cases named
  refine (ends_stageBinaries (fun binary member => required
    (List.mem_append_right _ (List.mem_map_of_mem member))) landed).sure fun _ next landed => ?_
  refine Ends.andThen _ (ends_stageArtifacts promotes (fun artifact member => required
    (List.mem_append_left _ (List.mem_map_of_mem member))) promote ⟨unfailed, unrejected⟩ landed)
    (fun _ _ failed => by
      obtain ⟨_, wrong, -⟩ := failed
      cases wrong) ?_
  rintro _ next ⟨reached, returned, admitted, landed⟩
  cases returned
  exact (ends_receipt envId landed).sure fun _ last landed => .pure ⟨_, rfl, admitted, landed⟩

end Import

def Inverse {Envelope : Type} (build : EnvelopeContent → Envelope)
    (scan : Envelope → Option ScannedEnvelope) : Prop :=
  ∀ content, ∃ scanned, scan (build content) = some scanned ∧
    scanned.planBytes = content.planBytes ∧ scanned.sigBytes = content.sigBytes ∧
    ∀ digest bytes, (digest, bytes) ∈ scanned.blobs ↔
      ∃ blob ∈ content.blobs, blob.digest = digest ∧ blob.bytes = bytes

/-- A plan that a `get` for this environment has returned on, its blobs intact. -/
structure StagedByGet (crate : UpdateCrate) (sha256 : Bytes → String) (envId : String)
    (staged : KeptPlan) : Prop where
  got : ∃ staging turns stage, ((getUpdates crate envId staged.verified.plan).run.finish
    (exec crate) staging turns).1 = .ok stage
  intact : staged.Intact sha256

/-- The plan's own channel is the receiver's, what the filter leaves out is in the
receiver's CAS, and the receiver keeps the plan under no other bytes. -/
def Transferable (sha256 : Bytes → String) (request : ExportRequest) (staged : KeptPlan)
    (receiver : UpdatesRoot) : Prop :=
  staged.verified.plan.envId = request.envId ∧
    (∀ digest ∈ staged.verified.digests, digest ∈ exportedDigests staged.verified request.targets ∨
      (receiver.casGet sha256 digest).isSome) ∧
    ∀ existing, receiver.find staged.planId = some existing →
      existing.planBytes = staged.planBytes ∧ existing.sigBytes = staged.sigBytes

def Arrived (sha256 : Bytes → String) (staged : KeptPlan) (named : List String)
    (finished : Except ImportError UpdateStage × UpdatesRoot) : Prop :=
  ∃ stage, finished.1 = .ok stage ∧ stage.Admitted ∧
    (∃ kept, finished.2.find staged.planId = some kept ∧ kept.planBytes = staged.planBytes ∧
      kept.sigBytes = staged.sigBytes ∧ kept.stage = stage) ∧
    ∀ digest ∈ named, ∃ bytes, finished.2.casGet sha256 digest = some bytes ∧
      sha256 bytes = digest

theorem manifest_of_get {envId : String} {plan : UpdatePlan} {staging : Staging}
    {turns : Nat → Turn} {stage : UpdateStage}
    (returned : ((getUpdates crate envId plan).run.finish (exec crate) staging turns).1 =
      .ok stage) : plan.manifestEnv = plan.envId := by
  unfold getUpdates at returned
  cases addressed : checkPlanAddressesEnv plan.envId envId with
  | error e =>
      rw [addressed] at returned
      cases returned
  | ok _ =>
      rw [addressed] at returned
      unfold checkManifestMatchesPlanEnv at returned
      by_cases same : plan.manifestEnv = plan.envId
      · exact same
      · rw [if_neg same] at returned
        cases returned

/-- The transfer of a plan that `get` staged succeeds in exactly these cases. -/
theorem transfer_arrives_iff {Envelope : Type} {build : EnvelopeContent → Envelope}
    {scan : Envelope → Option ScannedEnvelope} (inverse : Inverse build scan) {verify : Verify}
    {verifyReceipt : VerifyReceipt} (promotes : crate.Promotes) {sender receiver : UpdatesRoot}
    {request : ExportRequest} {staged : KeptPlan} {held : List String} {envelope : Envelope}
    {promote : Bool} (found : sender.find request.planId = some staged)
    (staged_by_get : StagedByGet crate sha256 request.envId staged)
    (based : heldDigests verifyReceipt request = .ok held)
    (written : exportImpl build sha256 verifyReceipt sender request = .ok envelope)
    (holds : ∀ digest ∈ held, (receiver.casGet sha256 digest).isSome)
    (trusts : verify staged.planBytes staged.sigBytes = some staged.verified)
    (admits : Admits crate receiver staged.verified) :
    let carried := ((scan envelope).map (·.blobs.map Prod.fst)).getD []
    Arrived sha256 staged (carried ++ held)
        ((importFile scan verify crate request.envId envelope promote).run.finish
          (undisturbed crate sha256) receiver fun _ => ()) ↔
      Transferable sha256 request staged receiver := by
  obtain ⟨_, _, content, loaded, again, rfl, packs⟩ := exportImpl_ok written
  rw [found] at loaded
  rw [based] at again
  cases loaded
  cases again
  obtain ⟨scanned, scans, plan, sig, blobs⟩ := inverse content
  have sound : ∀ blob ∈ scanned.blobs, sha256 blob.2 = blob.1 := by
    rintro ⟨digest, bytes⟩ member
    obtain ⟨blob, inside, rfl, rfl⟩ := (blobs digest bytes).mp member
    exact packs.sound staged_by_get.intact blob inside
  have digests : ∀ digest, digest ∈ scanned.blobs.map Prod.fst ↔
      digest ∈ exportedDigests staged.verified request.targets ∧ digest ∉ held := by
    intro digest
    rw [← packs.digests]
    constructor
    · intro member
      obtain ⟨⟨_, bytes⟩, inside, rfl⟩ := List.mem_map.mp member
      obtain ⟨blob, carried, named, -⟩ := (blobs _ bytes).mp inside
      exact List.mem_map.mpr ⟨blob, carried, named⟩
    · intro member
      obtain ⟨blob, carried, rfl⟩ := List.mem_map.mp member
      exact List.mem_map.mpr ⟨_, (blobs _ blob.bytes).mpr ⟨blob, carried, rfl, rfl⟩, rfl⟩
  have trusted : verify scanned.planBytes scanned.sigBytes = some staged.verified := by
    rw [plan, sig, packs.planBytes, packs.sigBytes]
    exact trusts
  have named : staged.verified.plan.planId = staged.planId := rfl
  obtain ⟨staging, turns, stage, returned⟩ := staged_by_get.got
  have manifest := manifest_of_get returned
  have addressed : checkImportAddress request.envId staged.verified = .ok () ↔
      staged.verified.plan.envId = request.envId := by
    unfold checkImportAddress
    rw [manifest]
    by_cases same : staged.verified.plan.envId = request.envId <;> simp [same]
  have available : Available sha256 receiver staged.verified (scanned.blobs.map Prod.fst) ↔
      ∀ digest ∈ staged.verified.digests,
        digest ∈ exportedDigests staged.verified request.targets ∨
          (receiver.casGet sha256 digest).isSome := by
    refine forall₂_congr fun digest _ => ?_
    rw [digests]
    constructor
    · rintro (⟨exported, -⟩ | stored)
      · exact .inl exported
      · exact .inr stored
    · rintro (exported | stored)
      · by_cases there : digest ∈ held
        · exact .inr (holds digest there)
        · exact .inl ⟨exported, there⟩
      · exact .inr stored
  have file : importFile scan verify crate request.envId (build content) promote =
      importImpl verify crate request.envId scanned promote := by
    unfold importFile
    rw [scans]
    rfl
  intro carried
  have carries : carried = scanned.blobs.map Prod.fst := by
    simp only [carried, scans, Option.map_some, Option.getD_some]
  rw [file, carries]
  by_cases goes : checkImportAddress request.envId staged.verified = .ok () ∧
      Available sha256 receiver staged.verified (scanned.blobs.map Prod.fst)
  · -- The import returns, and what it leaves for the plan decides.
    have covered : ∀ digest ∈ staged.verified.digests ++ (scanned.blobs.map Prod.fst ++ held),
        digest ∈ scanned.blobs.map Prod.fst ∨ (receiver.casGet sha256 digest).isSome := by
      intro digest member
      rcases List.mem_append.mp member with required | member
      · exact goes.2 digest required
      · exact (List.mem_append.mp member).imp_right (holds digest)
    obtain ⟨reached, finished, admitted, ⟨kept, there, plan_kept, sig_kept, at_stage⟩, stock⟩ :=
      (ends_import_lands promotes trusted sound admits goes.1 goes.2
        (List.subset_append_left _ _) covered).finish fun _ => ()
    rw [plan, sig, packs.planBytes, packs.sigBytes, named] at plan_kept sig_kept
    constructor
    · rintro ⟨_, -, -, ⟨other, other_there, plan_same, sig_same, -⟩, -⟩
      refine ⟨addressed.mp goes.1, available.mp goes.2, fun existing present => ?_⟩
      cases there.symm.trans other_there
      simp only [UpdatesRoot.bytesOf, present] at plan_kept sig_kept
      exact ⟨plan_kept.symm.trans plan_same, sig_kept.symm.trans sig_same⟩
    · rintro ⟨-, -, same⟩
      have bytes : receiver.bytesOf staged.planId staged.planBytes staged.sigBytes =
          (staged.planBytes, staged.sigBytes) := by
        unfold UpdatesRoot.bytesOf
        cases present : receiver.find staged.planId with
        | none => rfl
        | some existing =>
            obtain ⟨plan_same, sig_same⟩ := same existing present
            simp [plan_same, sig_same]
      rw [bytes] at plan_kept sig_kept
      refine ⟨reached, finished, admitted, ⟨kept, there, plan_kept, sig_kept, at_stage⟩, ?_⟩
      exact fun digest member => casGet_sound (stock digest (List.mem_append_right _ member))
  · have fails : EndsAt crate sha256 (fun outcome _ => ∀ stage, outcome ≠ .ok stage)
        (importImpl verify crate request.envId scanned promote) receiver :=
      ends_import_refused trusted goes
    have refused := fails.finish fun _ => ()
    refine iff_of_false ?_ fun ⟨own, whole, _⟩ => goes ⟨addressed.mpr own, available.mpr whole⟩
    rintro ⟨stage, finished, -⟩
    exact refused stage finished

def opened (content : EnvelopeContent) : Option ScannedEnvelope :=
  some ⟨content.planBytes, content.sigBytes,
    content.blobs.map fun blob => (blob.digest, blob.bytes)⟩

theorem opened_inverse : Inverse id opened := by
  intro content
  refine ⟨_, rfl, rfl, rfl, fun digest bytes => ?_⟩
  simp [List.mem_map]

theorem sampleCrate_promotes : sampleCrate.Promotes := ⟨rfl, rfl⟩

/-- A plan with a pack and a runtime, each blob being its own digest. -/
def travelling (channel : String) : VerifiedUpdatePlan :=
  ⟨⟨"next", channel, 5, "next-sha", channel, [], [⟨"pack", "blob"⟩]⟩, [⟨"runtime", "bin", "linux"⟩]⟩

def packed (channel : String) : KeptPlan :=
  ⟨travelling channel, "plan", "sig", .staged, [("blob", "blob")], []⟩

theorem packed_staged (channel : String) (addressed : channel = "local" ∨ channel = "_") :
    StagedByGet sampleCrate id "local" (packed channel) := by
  refine ⟨⟨.fresh, fun _ => .done, .staged, ?_⟩, by simp [KeptPlan.Intact, packed]⟩
  rcases addressed with rfl | rfl
  · decide
  · decide

def exporting (base : Option Bytes) (targets : List String) : ExportRequest :=
  ⟨"local", "next", base, base, targets, ["bin"]⟩

def receiptFor (bytes _ : Bytes) : Option ImportReceipt := some ⟨"local", [bytes]⟩

def arrivesAt (channel : String) (receiver : UpdatesRoot) (envelope : EnvelopeContent) :
    Except ImportError UpdateStage × UpdatesRoot :=
  (importFile opened (fun _ _ => some (travelling channel)) sampleCrate "local" envelope
    false).run.finish (undisturbed sampleCrate id) receiver fun _ => ()

/-- A delta for one target, to a receiver that holds the pack. -/
theorem delta_arrives :
    let envelope : EnvelopeContent := ⟨"plan", "sig", [⟨"bin", "bin", some "linux"⟩]⟩
    exportImpl id id receiptFor ⟨[packed "local"], [], none⟩ (exporting (some "blob") ["linux"]) =
        .ok envelope ∧
      Arrived id (packed "local") ["bin", "blob"]
        (arrivesAt "local" ⟨[], [("blob", "blob")], none⟩ envelope) := by
  intro envelope
  have found : UpdatesRoot.find ⟨[packed "local"], [], none⟩ "next" = some (packed "local") := by
    decide
  have based : heldDigests receiptFor (exporting (some "blob") ["linux"]) = .ok ["blob"] := by
    decide
  have written : exportImpl id id receiptFor ⟨[packed "local"], [], none⟩
      (exporting (some "blob") ["linux"]) = .ok envelope := by
    decide
  have admits : Admits sampleCrate ⟨[], [("blob", "blob")], none⟩ (packed "local").verified := by
    rfl
  refine ⟨written, (transfer_arrives_iff opened_inverse sampleCrate_promotes found
    (packed_staged "local" (.inl rfl)) based written (by decide) rfl admits).mpr ?_⟩
  exact ⟨rfl, by decide, fun _ present => by cases present⟩

/-- A broadcast plan is exported whole and refused; a plan without the runtimes of other
targets is exported and refused by a receiver that has none of them. -/
theorem exported_envelopes_are_refused :
    (StagedByGet sampleCrate id "local" (packed "_") ∧
      Admits sampleCrate .fresh (packed "_").verified ∧
      exportImpl id id receiptFor ⟨[packed "_"], [], none⟩ (exporting none []) =
        .ok ⟨"plan", "sig", [⟨"blob", "blob", none⟩, ⟨"bin", "bin", some "linux"⟩]⟩ ∧
      (arrivesAt "_" .fresh ⟨"plan", "sig", [⟨"blob", "blob", none⟩,
        ⟨"bin", "bin", some "linux"⟩]⟩).1 = .error (.notAddressed "_" "local")) ∧
    (StagedByGet sampleCrate id "local" (packed "local") ∧
      Admits sampleCrate .fresh (packed "local").verified ∧
      exportImpl id id receiptFor ⟨[packed "local"], [], none⟩ (exporting none ["mac"]) =
        .ok ⟨"plan", "sig", [⟨"blob", "blob", none⟩]⟩ ∧
      (arrivesAt "local" .fresh ⟨"plan", "sig", [⟨"blob", "blob", none⟩]⟩).1 =
        .error .preflight) := by
  refine ⟨⟨packed_staged "_" (.inr rfl), rfl, by decide, by decide⟩,
    packed_staged "local" (.inl rfl), rfl, by decide, by decide⟩

end GreenticDeployer.Updates
