import GreenticDeployer.Lib.Crash
import GreenticDeployer.Lib.Runs
import GreenticDeployer.Updates.Staging

/-!
# The static serving directory

An import may leave its plan in a directory that an HTTP server hands out: the
plan, its signature and its blobs, and a mark that guards the next write. A write
may be cut off between any two of its files.
-/

set_option maxHeartbeats 200000

namespace GreenticDeployer.Updates

open Lib

abbrev Bytes := String

structure PlanBinary where
  name : String
  digest : String
  target : String
  deriving DecidableEq, Repr

structure VerifiedUpdatePlan where
  plan : UpdatePlan
  binaries : List PlanBinary
  deriving DecidableEq, Repr

def VerifiedUpdatePlan.digests (verified : VerifiedUpdatePlan) : List String :=
  verified.plan.artifacts.map (·.digest) ++ verified.binaries.map (·.digest)

def VerifiedUpdatePlan.SucceededBy (earlier later : VerifiedUpdatePlan) : Prop :=
  earlier.plan.sequence ≤ later.plan.sequence ∧
    (earlier.plan.sequence = later.plan.sequence → earlier = later)

theorem VerifiedUpdatePlan.SucceededBy.refl (plan : VerifiedUpdatePlan) : plan.SucceededBy plan :=
  ⟨le_refl _, fun _ => rfl⟩

theorem VerifiedUpdatePlan.SucceededBy.trans {first second third : VerifiedUpdatePlan}
    (early : first.SucceededBy second) (late : second.SucceededBy third) :
    first.SucceededBy third := by
  refine ⟨early.1.trans late.1, fun same => ?_⟩
  have before := early.1
  have after := late.1
  have left := early.2 (by omega)
  have right := late.2 (by omega)
  exact left.trans right

/-- The update crate's check of a plan's bytes against a signature. -/
abbrev Verify := Bytes → Bytes → Option VerifiedUpdatePlan

/-- What its documentation says: the plan is parsed from its bytes, a signature covers
the exact bytes, and the digest in a verified plan is that of its bytes. -/
structure Verify.Documented (verify : Verify) : Prop where
  parsed : ∀ {plan sig sig' v w}, verify plan sig = some v → verify plan sig' = some w → v = w
  covers : ∀ {plan plan' sig v w}, verify plan sig = some v → verify plan' sig = some w →
    plan = plan'
  digest : ∀ {plan plan' sig sig' v w}, verify plan sig = some v → verify plan' sig' = some w →
    v.plan.planSha256 = w.plan.planSha256 → plan = plan'

structure PushToMeta where
  sequence : Nat
  planSha256 : String
  deriving DecidableEq, Repr

inductive BlobEntry where
  | file (bytes : Bytes)
  | directory
  | symlink
  | other
  deriving DecidableEq, Repr

/-- The files of the directory. A mark may be there and not parse. -/
structure ServingDir where
  blobs : String → Option BlobEntry
  planJson : Option Bytes
  planSig : Option Bytes
  mark : Option (Option PushToMeta)

/-- `sha256:<hex>` as a file name: the first colon becomes a dash. -/
def blobName (digest : String) : String :=
  let parts := digest.toList.span (· ≠ ':')
  String.ofList (parts.1 ++ match parts.2 with
    | [] => []
    | _ :: rest => '-' :: rest)

inductive PushError where
  | metaCorrupt
  | metaUnreadable
  | downgrade (existing incoming : Nat)
  | differentPlan (sequence : Nat) (existing incoming : String)
  | blobKind (name : String) (kind : BlobEntry)
  | casGet (digest : String)
  | io
  deriving DecidableEq, Repr

inductive ServeCall where
  | readMeta
  | blobMetadata (name : String)
  | casGet (digest : String)
  | writeBlob (name : String) (bytes : Bytes)
  | writePlan (bytes : Bytes)
  | writeSig (bytes : Bytes)
  | writeMeta (mark : PushToMeta)
  deriving DecidableEq, Repr

@[reducible] def ServeCall.Reply : ServeCall → Type
  | readMeta => Option (Option (Option PushToMeta))
  | blobMetadata _ => Option (Option BlobEntry)
  | casGet _ => Option Bytes
  | writeBlob _ _ | writePlan _ | writeSig _ | writeMeta _ => Option Unit

structure ServeTurn where
  turn : Turn
  held : Option Bytes

def ServingDir.write (dir : ServingDir) : ServeCall → ServingDir
  | .writeBlob name bytes =>
    { dir with blobs := fun other => if other = name then some (.file bytes) else dir.blobs other }
  | .writePlan bytes => { dir with planJson := some bytes }
  | .writeSig bytes => { dir with planSig := some bytes }
  | .writeMeta mark => { dir with mark := some (some mark) }
  | .readMeta | .blobMetadata _ | .casGet _ => dir

def ServingDir.exec (input : ServeTurn) (dir : ServingDir) : (call : ServeCall) →
    call.Reply × ServingDir
  | .readMeta => (input.turn.reply dir.mark, dir)
  | .blobMetadata name => (input.turn.reply (dir.blobs name), dir)
  | .casGet _ => (input.held, dir)
  | .writeBlob name bytes =>
    (input.turn.reply (), if input.turn.effective then dir.write (.writeBlob name bytes) else dir)
  | .writePlan bytes =>
    (input.turn.reply (), if input.turn.effective then dir.write (.writePlan bytes) else dir)
  | .writeSig bytes =>
    (input.turn.reply (), if input.turn.effective then dir.write (.writeSig bytes) else dir)
  | .writeMeta mark =>
    (input.turn.reply (), if input.turn.effective then dir.write (.writeMeta mark) else dir)

abbrev Serving (α : Type) := Program.Fallible ServeCall ServeCall.Reply PushError α

def orFail {α : Type} (e : PushError) : Option α → Except PushError α
  | some value => .ok value
  | none => .error e

/-- The guard: no lower sequence, and no other plan of the same one. -/
def checkMark (verified : VerifiedUpdatePlan) : Option (Option PushToMeta) → Except PushError Unit
  | none => .ok ()
  | some none => .error .metaCorrupt
  | some (some existing) =>
    if verified.plan.sequence < existing.sequence then
      .error (.downgrade existing.sequence verified.plan.sequence)
    else if existing.sequence = verified.plan.sequence ∧
        existing.planSha256 ≠ verified.plan.planSha256 then
      .error (.differentPlan verified.plan.sequence existing.planSha256 verified.plan.planSha256)
    else .ok ()

/-- A regular file is trusted by its name, anything else is refused. -/
def blobMissing (name : String) : Option (Option BlobEntry) → Except PushError Bool
  | none => .error .io
  | some none => .ok true
  | some (some (.file _)) => .ok false
  | some (some kind) => .error (.blobKind name kind)

def serveBlob (digest : String) : Serving Unit := do
  let missing ← Program.ask (.blobMetadata (blobName digest)) (blobMissing (blobName digest))
  if missing then
    let bytes ← Program.ask (.casGet digest) (orFail (.casGet digest))
    Program.ask (.writeBlob (blobName digest) bytes) (orFail .io)
  else return ()

/-- Blobs, plan, signature, and the mark last, under the directory's lock. -/
def writeStaticServingDir (planBytes sigBytes : Bytes) (verified : VerifiedUpdatePlan) :
    Serving Unit := do
  let mark ← Program.ask .readMeta (orFail .metaUnreadable)
  Program.lift (checkMark verified mark)
  verified.digests.forM serveBlob
  Program.ask (.writePlan planBytes) (orFail .io)
  Program.ask (.writeSig sigBytes) (orFail .io)
  Program.ask (.writeMeta ⟨verified.plan.sequence, verified.plan.planSha256⟩) (orFail .io)

variable (verify : Verify)

def Signs (dir : ServingDir) (plan : VerifiedUpdatePlan) : Prop :=
  ∃ bytes sig, dir.planSig = some sig ∧ verify bytes sig = some plan

def Serves (dir : ServingDir) (plan : VerifiedUpdatePlan) : Prop :=
  ∃ bytes sig, dir.planJson = some bytes ∧ dir.planSig = some sig ∧ verify bytes sig = some plan

def Present (dir : ServingDir) (plan : VerifiedUpdatePlan) : Prop :=
  ∀ digest ∈ plan.digests, ∃ bytes, dir.blobs (blobName digest) = some (.file bytes)

def Complete (dir : ServingDir) : Prop := ∀ plan, Serves verify dir plan → Present dir plan

/-- Serving goes from a plan to the same or a later one. -/
def Forward (before after : ServingDir) : Prop :=
  ∀ plan plan', Serves verify before plan → Serves verify after plan' → plan.SucceededBy plan'

/-- No plan that the signature on disk may stand for is past this one. -/
def UpToDate (dir : ServingDir) (plan : VerifiedUpdatePlan) : Prop :=
  ∀ latest, Signs verify dir latest → latest.SucceededBy plan

/-- The mark names the plan whose signature is on disk. -/
def Marked (dir : ServingDir) : Prop :=
  ∀ latest, Signs verify dir latest →
    dir.mark = some (some ⟨latest.plan.sequence, latest.plan.planSha256⟩)

structure Watched where
  dir : ServingDir
  past : List ServingDir

def Watched.states (watched : Watched) : List ServingDir := watched.past ++ [watched.dir]

def Watched.exec (input : ServeTurn) (watched : Watched) (call : ServeCall) : call.Reply × Watched :=
  ((ServingDir.exec input watched.dir call).1,
    ⟨(ServingDir.exec input watched.dir call).2, watched.past ++ [watched.dir]⟩)

structure Push where
  planBytes : Bytes
  sigBytes : Bytes
  verified : VerifiedUpdatePlan
  inputs : List ServeTurn

def Push.program (push : Push) : Program ServeCall ServeCall.Reply (Except PushError Unit) :=
  (writeStaticServingDir push.planBytes push.sigBytes push.verified).run

/-- Writes one after the other, each of a plan its caller has verified. -/
def pushes : System Watched Push where
  step watched push := push.program.cut Watched.exec watched push.inputs
  allowed _ push := verify push.planBytes push.sigBytes = some push.verified

/-- A push over a signature the mark does not name brings the same or a later plan. -/
def Timely (watched : Watched) (push : Push) : Prop :=
  Marked verify watched.dir ∨ UpToDate verify watched.dir push.verified

/-- What holds at every state of a write; the order only where `ordered`. -/
structure Sound (ordered : Prop) (watched : Watched) : Prop where
  held : ∀ bytes, watched.dir.planJson = some bytes → ∀ sig plan, verify bytes sig = some plan →
    Present watched.dir plan
  complete : ∀ dir ∈ watched.past, Complete verify dir
  dominated : ordered → ∀ dir ∈ watched.past, ∀ plan, Serves verify dir plan →
    ∃ latest, Signs verify watched.dir latest ∧ plan.SucceededBy latest
  forward : ordered → watched.past.Pairwise (Forward verify)

variable {verify}

theorem Serves.signs {dir : ServingDir} {plan : VerifiedUpdatePlan}
    (serves : Serves verify dir plan) : Signs verify dir plan := by
  obtain ⟨bytes, sig, -, signed, verified⟩ := serves
  exact ⟨bytes, sig, signed, verified⟩

theorem Signs.unique (documented : Verify.Documented verify) {dir : ServingDir}
    {plan plan' : VerifiedUpdatePlan} (one : Signs verify dir plan)
    (other : Signs verify dir plan') : plan = plan' := by
  obtain ⟨bytes, sig, signed, verified⟩ := one
  obtain ⟨bytes', sig', signed', verified'⟩ := other
  rw [signed] at signed'
  cases signed'
  cases documented.covers verified verified'
  exact documented.parsed verified verified'

variable {ordered : Prop} {watched : Watched}

theorem Sound.here (sound : Sound verify ordered watched) : Complete verify watched.dir := by
  rintro plan ⟨bytes, sig, stored, -, verified⟩
  exact sound.held bytes stored sig plan verified

theorem Sound.next (documented : Verify.Documented verify) (sound : Sound verify ordered watched)
    {dir : ServingDir}
    (held : ∀ bytes, dir.planJson = some bytes → ∀ sig plan, verify bytes sig = some plan →
      Present dir plan)
    (signs : ordered → ∀ latest, Signs verify watched.dir latest →
      ∃ next, Signs verify dir next ∧ latest.SucceededBy next) :
    Sound verify ordered ⟨dir, watched.past ++ [watched.dir]⟩ where
  held := held
  complete := by
    intro earlier member
    rcases List.mem_append.mp member with past | last
    · exact sound.complete earlier past
    · rw [List.mem_singleton.mp last]
      exact sound.here
  dominated := by
    intro order earlier member plan serves
    rcases List.mem_append.mp member with past | last
    · obtain ⟨latest, signed, before⟩ := sound.dominated order earlier past plan serves
      obtain ⟨next, renewed, after⟩ := signs order latest signed
      exact ⟨next, renewed, before.trans after⟩
    · rw [List.mem_singleton.mp last] at serves
      exact signs order plan serves.signs
  forward := by
    intro order
    refine List.pairwise_append.mpr ⟨sound.forward order, List.pairwise_singleton _ _, ?_⟩
    intro earlier past last member plan plan' serves serves'
    rw [List.mem_singleton.mp member] at serves'
    obtain ⟨latest, signed, before⟩ := sound.dominated order earlier past plan serves
    cases signed.unique documented serves'.signs
    exact before

/-- The states so far, the last one included, are as the claim of the run needs them. -/
theorem Sound.all (documented : Verify.Documented verify) (sound : Sound verify ordered watched) :
    (∀ dir ∈ watched.states, Complete verify dir) ∧
      (ordered → watched.states.Pairwise (Forward verify)) := by
  have stay := sound.next documented sound.held fun _ latest signed =>
    ⟨latest, signed, .refl latest⟩
  exact ⟨stay.complete, stay.forward⟩

theorem present_mono {before after : ServingDir} {plan : VerifiedUpdatePlan}
    (grown : ∀ name bytes, before.blobs name = some (.file bytes) →
      ∃ bytes, after.blobs name = some (.file bytes)) (present : Present before plan) :
    Present after plan := by
  intro digest member
  obtain ⟨bytes, stored⟩ := present digest member
  exact grown _ bytes stored

section Write

variable (documented : Verify.Documented verify) {push : Push}
  (verified : verify push.planBytes push.sigBytes = some push.verified)

/-- Ready for the signature: no later one is on disk. -/
def Ready (verify : Verify) (ordered : Prop) (push : Push) (dir : ServingDir) : Prop :=
  ordered → UpToDate verify dir push.verified

include documented in
theorem Sound.blobs (sound : Sound verify ordered watched) {dir : ServingDir}
    (plan : dir.planJson = watched.dir.planJson) (sig : dir.planSig = watched.dir.planSig)
    (grown : ∀ name bytes, watched.dir.blobs name = some (.file bytes) →
      ∃ bytes, dir.blobs name = some (.file bytes)) :
    Sound verify ordered ⟨dir, watched.past ++ [watched.dir]⟩ := by
  refine sound.next documented ?_ ?_
  · intro bytes stored signature other checked
    rw [plan] at stored
    exact present_mono grown (sound.held bytes stored signature other checked)
  · intro _ latest signed
    refine ⟨latest, ?_, .refl latest⟩
    obtain ⟨bytes, signature, stored, checked⟩ := signed
    exact ⟨bytes, signature, sig.trans stored, checked⟩

include documented in
theorem Sound.stay (sound : Sound verify ordered watched) :
    Sound verify ordered ⟨watched.dir, watched.past ++ [watched.dir]⟩ :=
  sound.blobs documented rfl rfl fun _ bytes stored => ⟨bytes, stored⟩

include documented verified in
theorem Sound.planWritten (sound : Sound verify ordered watched)
    (present : Present watched.dir push.verified) :
    Sound verify ordered ⟨watched.dir.write (.writePlan push.planBytes),
      watched.past ++ [watched.dir]⟩ := by
  refine sound.next documented ?_ fun _ latest signed => ⟨latest, signed, .refl latest⟩
  intro bytes stored signature plan checked
  cases stored
  rw [documented.parsed checked verified]
  exact present

include documented verified in
theorem Sound.sigWritten (sound : Sound verify ordered watched)
    (ready : Ready verify ordered push watched.dir) :
    Sound verify ordered ⟨watched.dir.write (.writeSig push.sigBytes),
      watched.past ++ [watched.dir]⟩ := by
  refine sound.next documented sound.held fun order latest signed => ?_
  exact ⟨push.verified, ⟨_, _, rfl, verified⟩, ready order latest signed⟩

/-- With these digests still to do, the others have their blobs. -/
structure Serving.Loop (verify : Verify) (ordered : Prop) (push : Push) (items : List String)
    (watched : Watched) : Prop where
  sound : Sound verify ordered watched
  ready : Ready verify ordered push watched.dir
  present : ∀ digest ∈ push.verified.digests, digest ∈ items ∨
    ∃ bytes, watched.dir.blobs (blobName digest) = some (.file bytes)

theorem blobMissing_false {name : String} {turn : Turn} {entry : Option BlobEntry}
    (skipped : blobMissing name (turn.reply entry) = .ok false) :
    ∃ bytes, entry = some (.file bytes) := by
  cases turn with
  | failed _ => cases skipped
  | done =>
      cases entry with
      | none => cases skipped
      | some found =>
          cases found with
          | file bytes => exact ⟨bytes, rfl⟩
          | directory => cases skipped
          | symlink => cases skipped
          | other => cases skipped

include documented in
theorem Serving.Loop.step {items : List String} (loop : Serving.Loop verify ordered push items watched)
    {dir : ServingDir} (plan : dir.planJson = watched.dir.planJson)
    (sig : dir.planSig = watched.dir.planSig)
    (grown : ∀ name bytes, watched.dir.blobs name = some (.file bytes) →
      ∃ bytes, dir.blobs name = some (.file bytes)) :
    Serving.Loop verify ordered push items ⟨dir, watched.past ++ [watched.dir]⟩ where
  sound := loop.sound.blobs documented plan sig grown
  ready := by
    intro order latest signed
    obtain ⟨bytes, signature, stored, checked⟩ := signed
    exact loop.ready order latest ⟨bytes, signature, sig.symm.trans stored, checked⟩
  present := by
    intro digest member
    rcases loop.present digest member with still | ⟨bytes, stored⟩
    · exact .inl still
    · exact .inr (grown _ bytes stored)

theorem Serving.Loop.drop {digest : String} {rest : List String}
    (loop : Serving.Loop verify ordered push (digest :: rest) watched)
    (stored : ∃ bytes, watched.dir.blobs (blobName digest) = some (.file bytes)) :
    Serving.Loop verify ordered push rest watched where
  sound := loop.sound
  ready := loop.ready
  present := by
    intro other member
    rcases loop.present other member with still | found
    · rcases List.mem_cons.mp still with rfl | later
      · exact .inr stored
      · exact .inl later
    · exact .inr found

def Reached {α : Type} (holds : Watched → Prop) (outcome : Except PushError α)
    (watched : Watched) : Prop :=
  ∀ value, outcome = .ok value → holds watched

/-- A write is done or it fails, and where it fails it may have taken effect. -/
theorem after_write {inv post : Watched → Prop} {before after : ServingDir}
    {past : List ServingDir} {e : PushError} (turn : Turn) (written : inv ⟨after, past⟩)
    (unwritten : inv ⟨before, past⟩) (ends : post ⟨after, past⟩) :
    inv ⟨if turn.effective then after else before, past⟩ ∧
      Reached post (orFail e (turn.reply ())) ⟨if turn.effective then after else before, past⟩ := by
  cases turn with
  | done => exact ⟨written, fun _ _ => ends⟩
  | failed effective =>
      refine ⟨?_, fun _ wrong => by cases wrong⟩
      cases effective with
      | true => exact written
      | false => exact unwritten

theorem blobs_written (dir : ServingDir) (name : String) (bytes : Bytes) :
    (dir.write (.writeBlob name bytes)).blobs name = some (.file bytes) := if_pos rfl

theorem blobs_written_of_ne (dir : ServingDir) {name other : String} (bytes : Bytes)
    (apart : other ≠ name) :
    (dir.write (.writeBlob name bytes)).blobs other = dir.blobs other := if_neg apart

theorem written_grown (dir : ServingDir) (digest : String) (bytes : Bytes) :
    ∀ name stored, dir.blobs name = some (.file stored) →
      ∃ stored, (dir.write (.writeBlob (blobName digest) bytes)).blobs name =
        some (.file stored) := by
  intro name stored found
  by_cases here : name = blobName digest
  · rw [here]
    exact ⟨bytes, blobs_written dir _ bytes⟩
  · rw [blobs_written_of_ne dir bytes here]
    exact ⟨stored, found⟩

open Program in
include documented in
theorem serveBlob_safe {digest : String} {rest : List String}
    (start : Serving.Loop verify ordered push (digest :: rest) watched) :
    (serveBlob digest).run.Safe Watched.exec (fun _ => True) (Sound verify ordered)
      (Reached (Serving.Loop verify ordered push rest)) watched := by
  have stays : ∀ {watched : Watched}, Serving.Loop verify ordered push (digest :: rest) watched →
      Serving.Loop verify ordered push (digest :: rest)
        ⟨watched.dir, watched.past ++ [watched.dir]⟩ := fun loop =>
    loop.step documented rfl rfl fun _ bytes stored => ⟨bytes, stored⟩
  refine Safe.andThen (fun outcome next => Serving.Loop verify ordered push (digest :: rest) next ∧
    (outcome = .ok false → ∃ bytes, next.dir.blobs (blobName digest) = some (.file bytes)))
    (Safe.ask start.sound (fun _ _ => start.sound.stay documented) fun input _ =>
      ⟨stays start, blobMissing_false⟩) (fun _ _ _ _ _ wrong => by cases wrong) ?_
  rintro missing next - ⟨loop, skipped⟩
  cases missing with
  | false =>
      refine ⟨loop.sound, fun _ _ => ?_⟩
      exact loop.drop (skipped rfl)
  | true =>
      refine Safe.andThen (fun _ next => Serving.Loop verify ordered push (digest :: rest) next)
        (Safe.ask loop.sound (fun _ _ => loop.sound.stay documented) fun _ _ => stays loop)
        (fun _ _ _ _ _ wrong => by cases wrong) ?_
      intro bytes last _ loop
      have wrote : Serving.Loop verify ordered push (digest :: rest)
          ⟨last.dir.write (.writeBlob (blobName digest) bytes), last.past ++ [last.dir]⟩ :=
        loop.step documented (by simp only [ServingDir.write]) (by simp only [ServingDir.write])
          (written_grown last.dir digest bytes)
      exact ⟨loop.sound, fun input _ => after_write input.turn wrote.sound (stays loop).sound
        (wrote.drop ⟨bytes, blobs_written last.dir _ bytes⟩)⟩

theorem upToDate_of_guard (documented : Verify.Documented verify)
    (verified : verify push.planBytes push.sigBytes = some push.verified) {dir : ServingDir}
    (passed : checkMark push.verified dir.mark = .ok ()) (marked : Marked verify dir) :
    UpToDate verify dir push.verified := by
  intro latest signed
  rw [marked latest signed, checkMark] at passed
  by_cases lower : push.verified.plan.sequence < latest.plan.sequence
  · simp [lower] at passed
  · rw [if_neg lower] at passed
    refine ⟨by omega, fun same => ?_⟩
    have digest : latest.plan.planSha256 = push.verified.plan.planSha256 := by
      by_contra other
      simp [same, other] at passed
    obtain ⟨bytes, sig, -, checked⟩ := signed
    cases documented.digest checked verified digest
    exact documented.parsed checked verified

open Program in
include documented verified in
/-- One write keeps the invariant wherever it is cut off. At its end the mark names
the plan whose signature it wrote. -/
theorem push_safe (sound : Sound verify ordered watched)
    (timely : ordered → Timely verify watched push) :
    push.program.Safe Watched.exec (fun _ => True) (Sound verify ordered)
      (Reached fun watched => Marked verify watched.dir) watched := by
  refine Safe.andThen (fun outcome next => next.dir = watched.dir ∧
    ∀ mark, outcome = .ok mark → mark = watched.dir.mark)
    (Safe.ask sound (fun _ _ => sound.stay documented) fun input _ => ⟨rfl, ?_⟩)
    (fun _ _ _ _ _ wrong => by cases wrong) ?_
  · intro mark returned
    cases turned : input.turn with
    | done =>
        simp only [Watched.exec, ServingDir.exec, turned, Turn.reply, orFail] at returned
        cases returned
        rfl
    | failed _ =>
        simp only [Watched.exec, ServingDir.exec, turned, Turn.reply, orFail] at returned
        cases returned
  intro mark next held reached
  have read := reached.2 mark rfl
  subst read
  refine Safe.andThen (fun outcome last => last.dir = watched.dir ∧
    outcome = checkMark push.verified watched.dir.mark) (Safe.lift held ⟨reached.1, rfl⟩)
    (fun _ _ _ _ _ wrong => by cases wrong) ?_
  rintro ⟨⟩ next held ⟨same, passed⟩
  have ready : Ready verify ordered push next.dir := by
    intro order
    rw [same]
    rcases timely order with marked | upToDate
    · exact upToDate_of_guard documented verified passed.symm marked
    · exact upToDate
  have start : Serving.Loop verify ordered push push.verified.digests next :=
    ⟨held, ready, fun _ member => .inl member⟩
  refine Safe.andThen (Reached (Serving.Loop verify ordered push []))
    (Safe.forM (Serving.Loop verify ordered push) _ start ?_ (fun _ _ loop => loop.sound)
      fun _ _ loop _ _ => loop) (fun _ _ _ _ _ wrong => by cases wrong) ?_
  · intro digest rest state _ loop
    refine (serveBlob_safe documented loop).mono (fun _ same => same) ?_
    intro outcome state _ reached
    cases outcome with
    | ok _ => exact reached _ rfl
    | error e => exact fun _ wrong => by cases wrong
  rintro ⟨⟩ next _ reached
  have loop := reached _ rfl
  have present : Present next.dir push.verified := fun digest member =>
    (loop.present digest member).resolve_left List.not_mem_nil
  have planned := loop.sound.planWritten documented verified present
  refine Safe.andThen (Reached fun state => Sound verify ordered state ∧
    Ready verify ordered push state.dir) ⟨loop.sound, fun input _ => after_write input.turn planned
      (loop.sound.stay documented) ⟨planned, loop.ready⟩⟩ (fun _ _ _ _ _ wrong => by cases wrong) ?_
  rintro ⟨⟩ next _ reached
  obtain ⟨held, ready⟩ := reached _ rfl
  have signed := held.sigWritten documented verified ready
  refine Safe.andThen (Reached fun state => Sound verify ordered state ∧
    state.dir.planSig = some push.sigBytes) ⟨held, fun input _ => after_write input.turn signed
      (held.stay documented) ⟨signed, rfl⟩⟩ (fun _ _ _ _ _ wrong => by cases wrong) ?_
  rintro ⟨⟩ next _ reached
  obtain ⟨held, stored⟩ := reached _ rfl
  let ended := next.dir.write (.writeMeta
    ⟨push.verified.plan.sequence, push.verified.plan.planSha256⟩)
  have marked : Sound verify ordered ⟨ended, next.past ++ [next.dir]⟩ :=
    held.blobs documented rfl rfl fun _ bytes found => ⟨bytes, found⟩
  refine ⟨held, fun input _ => after_write input.turn marked (held.stay documented) ?_⟩
  intro latest signed
  cases signed.unique documented ⟨push.planBytes, push.sigBytes, stored, verified⟩
  rfl

end Write

theorem completed_push_marks (documented : Verify.Documented verify) {push : Push}
    (verified : verify push.planBytes push.sigBytes = some push.verified)
    (sound : Sound verify False watched)
    (returned : push.program.outcome Watched.exec watched push.inputs = some (.ok ())) :
    Marked verify (push.program.cut Watched.exec watched push.inputs).dir :=
  (push_safe documented verified sound False.elim).outcome push.inputs (fun _ _ => trivial)
    returned () rfl

/-- A directory that serves nothing yet, its blobs and its mark as they may be. -/
structure ServingDir.Unserved (dir : ServingDir) : Prop where
  plan : dir.planJson = none
  sig : dir.planSig = none

theorem Sound.start {dir : ServingDir} (unserved : dir.Unserved) :
    Sound verify ordered ⟨dir, []⟩ where
  held := by
    intro bytes stored
    rw [unserved.plan] at stored
    cases stored
  complete := nofun
  dominated := fun _ => nofun
  forward := fun _ => .nil

/-- Every plan that verifies has its blobs in every state of every run. Serving never
goes back, and no two plans share a sequence, where each push is timely. -/
theorem serving_dir_goes_forward (verify : Verify) (documented : Verify.Documented verify)
    (dir : ServingDir) (unserved : dir.Unserved) (writes : List Push)
    (admits : (pushes verify).Admits ⟨dir, []⟩ writes) :
    (∀ state ∈ ((pushes verify).run ⟨dir, []⟩ writes).states, Complete verify state) ∧
      (((pushes verify).restrict (Timely verify)).Admits ⟨dir, []⟩ writes →
        ((pushes verify).run ⟨dir, []⟩ writes).states.Pairwise fun before after =>
          ∀ plan plan', Serves verify before plan → Serves verify after plan' →
            plan.plan.sequence ≤ plan'.plan.sequence ∧
              (plan.plan.sequence = plan'.plan.sequence → plan = plan')) := by
  constructor
  · have sound := (pushes verify).run_invariant (Sound verify False)
      (fun watched push verified sound =>
        (push_safe documented verified sound False.elim).cut push.inputs fun _ _ => trivial)
      _ writes admits (.start unserved)
    exact (sound.all documented).1
  · intro timely
    have sound := ((pushes verify).restrict (Timely verify)).run_invariant (Sound verify True)
      (fun watched push allowed sound =>
        (push_safe documented allowed.1 sound fun _ => allowed.2).cut push.inputs
          fun _ _ => trivial)
      _ writes timely (.start unserved)
    rw [System.run_restrict] at sound
    exact (sound.all documented).2 trivial

theorem completed_pushes_are_timely (documented : Verify.Documented verify) {dir : ServingDir}
    (unserved : dir.Unserved) (writes : List Push)
    (completed : ((pushes verify).restrict fun watched push =>
      push.program.outcome Watched.exec watched push.inputs = some (.ok ())).Admits ⟨dir, []⟩
        writes) :
    ((pushes verify).restrict (Timely verify)).Admits ⟨dir, []⟩ writes := by
  refine (pushes verify).restrict_admits
    (fun watched => Sound verify False watched ∧ Marked verify watched.dir) ?_ ?_ _ writes completed
    ⟨.start unserved, ?_⟩
  · intro watched push verified returned held
    exact ⟨(push_safe documented verified held.1 False.elim).cut push.inputs fun _ _ => trivial,
      completed_push_marks documented verified held.1 returned⟩
  · intro watched push held _
    exact .inl held.2
  · rintro latest ⟨_, sig, signed, -⟩
    rw [unserved.sig] at signed
    cases signed

def demoPlan (planId : PlanId) (sequence : Nat) : VerifiedUpdatePlan :=
  ⟨⟨planId, "local", sequence, planId, "local", [], []⟩, []⟩

def demoPlans : List (Bytes × VerifiedUpdatePlan) :=
  [("four", demoPlan "four" 4), ("five", demoPlan "five" 5), ("other five", demoPlan "other five" 5)]

/-- A plan's bytes are its own signature. -/
def demoVerify : Verify := fun bytes sig =>
  if bytes = sig then (demoPlans.find? fun known => known.1 = bytes).map (·.2) else none

def emptyDir : ServingDir := ⟨fun _ => none, none, none, none⟩

def demoPush (bytes : Bytes) (verified : VerifiedUpdatePlan) (calls : Nat) : Push :=
  ⟨bytes, bytes, verified, List.replicate calls ⟨.done, none⟩⟩

def cutFive : Push := demoPush "five" (demoPlan "five" 5) 3

def fullFour : Push := demoPush "four" (demoPlan "four" 4) 4

def fullOtherFive : Push := demoPush "other five" (demoPlan "other five" 5) 4

theorem demoVerify_eq {bytes sig : Bytes} {plan : VerifiedUpdatePlan}
    (verified : demoVerify bytes sig = some plan) : bytes = sig ∧ (bytes, plan) ∈ demoPlans := by
  unfold demoVerify at verified
  by_cases same : bytes = sig
  · rw [if_pos same] at verified
    obtain ⟨known, found, rfl⟩ := Option.map_eq_some_iff.mp verified
    have named : known.1 = bytes := by simpa using List.find?_some found
    exact ⟨same, named ▸ List.mem_of_find?_eq_some found⟩
  · rw [if_neg same] at verified
    cases verified

theorem demoVerify_documented : Verify.Documented demoVerify where
  parsed := by
    intro plan sig sig' v w one other
    have known : ∀ left ∈ demoPlans, ∀ right ∈ demoPlans, left.1 = right.1 → left.2 = right.2 := by
      decide
    exact known _ (demoVerify_eq one).2 _ (demoVerify_eq other).2 rfl
  covers := by
    intro plan plan' sig v w one other
    exact (demoVerify_eq one).1.trans (demoVerify_eq other).1.symm
  digest := by
    intro plan plan' sig sig' v w one other same
    have known : ∀ entry ∈ demoPlans, entry.2.plan.planSha256 = entry.1 := by decide
    have left := known _ (demoVerify_eq one).2
    have right := known _ (demoVerify_eq other).2
    exact left.symm.trans (same.trans right)

theorem four_verifies : demoVerify "four" "four" = some (demoPlan "four" 4) := by decide

theorem five_verifies : demoVerify "five" "five" = some (demoPlan "five" 5) := by decide

theorem other_five_verifies :
    demoVerify "other five" "other five" = some (demoPlan "other five" 5) := by decide

/-- A push that is cut off behind the signature, and then again in full. -/
theorem retried_push_goes_forward :
    ((pushes demoVerify).run ⟨emptyDir, []⟩
        [cutFive, demoPush "five" (demoPlan "five" 5) 4]).states.Pairwise fun before after =>
      ∀ plan plan', Serves demoVerify before plan → Serves demoVerify after plan' →
        plan.plan.sequence ≤ plan'.plan.sequence ∧
          (plan.plan.sequence = plan'.plan.sequence → plan = plan') :=
  (serving_dir_goes_forward demoVerify demoVerify_documented emptyDir ⟨rfl, rfl⟩
    [cutFive, demoPush "five" (demoPlan "five" 5) 4] ⟨five_verifies, five_verifies, trivial⟩).2 (by
      refine ⟨⟨five_verifies, .inl ?_⟩, ⟨five_verifies, .inr ?_⟩, trivial⟩
      · rintro latest ⟨_, _, missing, _⟩
        cases missing
      · intro latest signed
        cases signed.unique demoVerify_documented ⟨"five", "five", rfl, five_verifies⟩
        exact .refl _)

/-- After a push of sequence five was cut off before its mark, the guard admits a lower
sequence, and another plan of the same one. -/
theorem cut_push_goes_back :
    ((pushes demoVerify).Admits ⟨emptyDir, []⟩ [cutFive, fullFour] ∧
      ¬ ((pushes demoVerify).run ⟨emptyDir, []⟩ [cutFive, fullFour]).states.Pairwise
        fun before after => ∀ plan plan', Serves demoVerify before plan →
          Serves demoVerify after plan' → plan.plan.sequence ≤ plan'.plan.sequence) ∧
    (pushes demoVerify).Admits ⟨emptyDir, []⟩ [cutFive, fullOtherFive] ∧
      ∃ before ∈ ((pushes demoVerify).run ⟨emptyDir, []⟩ [cutFive, fullOtherFive]).states,
        ∃ after ∈ ((pushes demoVerify).run ⟨emptyDir, []⟩ [cutFive, fullOtherFive]).states,
          Serves demoVerify before (demoPlan "five" 5) ∧
            Serves demoVerify after (demoPlan "other five" 5) := by
  refine ⟨⟨⟨five_verifies, four_verifies, trivial⟩, fun forward => ?_⟩,
    ⟨five_verifies, other_five_verifies, trivial⟩, ?_⟩
  · have back := List.pairwise_iff_getElem.mp forward 3 7 (by decide) (by decide)
      (by decide) (demoPlan "five" 5) (demoPlan "four" 4)
    have later := back ⟨"five", "five", rfl, rfl, five_verifies⟩
      ⟨"four", "four", rfl, rfl, four_verifies⟩
    exact absurd later (by decide)
  · refine ⟨_, List.getElem_mem (n := 3) (by decide), _,
      List.getElem_mem (n := 7) (by decide), ?_, ?_⟩
    · exact ⟨"five", "five", rfl, rfl, five_verifies⟩
    · exact ⟨"other five", "other five", rfl, rfl, other_five_verifies⟩

end GreenticDeployer.Updates
