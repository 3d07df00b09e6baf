import GreenticDeployer.Ssh.Warm

/-!
# What a warm keeps on the VM

The store link is absent or names a slot with one whole snapshot; a warm writes
the other slot, carries the signing key over and only then moves the link. Beside
it runs what the flags of the VM say of the service: what it was started with is
what is installed, until something is installed anew.
-/

set_option maxHeartbeats 200000

namespace GreenticDeployer.Ssh

open Spec Lib

theorem pathBytes_injective {left right : PathBuf} (same : pathBytes left = pathBytes right) :
    left = right := by
  have arrays : left.toByteArray.data = right.toByteArray.data := Array.toList_inj.mp same
  exact String.toByteArray_inj.mp (ByteArray.ext arrays)

def lastChar (path : PathBuf) : Option Char := path.toList.getLast?

theorem lastChar_append (front : PathBuf) {suffix : PathBuf} {last : Char}
    (ends : lastChar suffix = some last) : lastChar (front ++ suffix) = some last := by
  unfold lastChar at ends ⊢
  rw [String.toList_append, List.getLast?_append, ends]
  rfl

theorem lastChar_keyPath (layout : Layout) : lastChar layout.keyPath = some 'y' :=
  lastChar_append _ (by decide)

theorem lastChar_logsPath (layout : Layout) : lastChar layout.logsPath = some 's' :=
  lastChar_append _ (by decide)

theorem lastChar_marker : lastChar markerPath = some '6' := by decide

theorem lastChar_slotPath (layout : Layout) (slot : Slot) :
    lastChar (layout.slotPath slot) = some (if slot = .a then 'a' else 'b') := by
  apply lastChar_append
  cases slot <;> decide

theorem keyPath_ne_marker (layout : Layout) : layout.keyPath ≠ markerPath := by
  intro same
  have ends := lastChar_keyPath layout
  rw [same, lastChar_marker] at ends
  cases ends

theorem logsPath_ne_marker (layout : Layout) : layout.logsPath ≠ markerPath := by
  intro same
  have ends := lastChar_logsPath layout
  rw [same, lastChar_marker] at ends
  cases ends

theorem keyPath_ne_logsPath (layout : Layout) : layout.keyPath ≠ layout.logsPath := by
  intro same
  have ends := lastChar_keyPath layout
  rw [same, lastChar_logsPath] at ends
  cases ends

theorem slotPath_injective (layout : Layout) {left right : Slot}
    (same : layout.slotPath left = layout.slotPath right) : left = right := by
  have ends := lastChar_slotPath layout left
  rw [same, lastChar_slotPath] at ends
  cases left <;> cases right <;> first | rfl | cases ends

namespace Vm

variable {layout : Layout} {vm after : Vm}

theorem activeSlot_eq_some {slot : Slot} :
    vm.activeSlot layout = some slot ↔ vm.liveLink = some (layout.slotPath slot) := by
  unfold activeSlot
  constructor
  · intro found
    split at found
    · cases found
      assumption
    · split at found
      · cases found
        assumption
      · cases found
  · intro link
    rw [link]
    cases slot with
    | a => simp
    | b =>
        have apart : layout.slotPath .b ≠ layout.slotPath .a := by
          intro same
          cases slotPath_injective layout same
        simp [apart]

/-- The store as a reader of the link sees it. -/
structure SameStore (layout : Layout) (vm after : Vm) : Prop where
  link : after.liveLink = vm.liveLink
  slot : ∀ slot, vm.activeSlot layout = some slot → after.slots slot = vm.slots slot

namespace SameStore

theorem refl (layout : Layout) (vm : Vm) : SameStore layout vm vm := ⟨rfl, fun _ _ => rfl⟩

theorem activeSlot (same : SameStore layout vm after) :
    after.activeSlot layout = vm.activeSlot layout := by
  unfold Vm.activeSlot
  rw [same.link]

theorem liveMarker (same : SameStore layout vm after) :
    after.liveMarker layout = vm.liveMarker layout := by
  unfold Vm.liveMarker
  rw [same.activeSlot]
  cases active : vm.activeSlot layout with
  | none => rfl
  | some slot => simp only [Option.bind_some, nodeIn, same.slot slot active]

theorem liveKey (same : SameStore layout vm after) :
    after.liveKey layout = vm.liveKey layout := by
  unfold Vm.liveKey
  rw [same.activeSlot]
  cases active : vm.activeSlot layout with
  | none => rfl
  | some slot => simp only [Option.bind_some, keyIn, nodeIn, same.slot slot active]

theorem setSlot {slot : Slot} (tree : Option Tree) (other : vm.activeSlot layout ≠ some slot) :
    SameStore layout vm (vm.setSlot slot tree) where
  link := rfl
  slot := by
    intro active found
    have apart : active ≠ slot := by
      rintro rfl
      exact other found
    exact Function.update_of_ne apart _ _

end SameStore

structure SameService (vm after : Vm) : Prop where
  installed : after.installed = vm.installed
  installedUnit : after.installedUnit = vm.installedUnit
  loadedUnit : after.loadedUnit = vm.loadedUnit
  running : after.running = vm.running
  reloadDue : after.reloadDue = vm.reloadDue

theorem SameService.refl (vm : Vm) : SameService vm vm := ⟨rfl, rfl, rfl, rfl, rfl⟩

theorem SameService.trans {last : Vm} (first : SameService vm after)
    (second : SameService after last) : SameService vm last where
  installed := second.installed.trans first.installed
  installedUnit := second.installedUnit.trans first.installedUnit
  loadedUnit := second.loadedUnit.trans first.loadedUnit
  running := second.running.trans first.running
  reloadDue := second.reloadDue.trans first.reloadDue

end Vm

/-- A slot with one whole snapshot, marked with the hash of its content. What the
runtime owns in it is left aside. -/
def HoldsSnapshot (layout : Layout) (digest : Tree → Bytes) (content tree : Tree) : Prop :=
  ∀ path, path ≠ layout.keyPath → path ≠ layout.logsPath →
    tree path = withMarker digest content path

/-- In every state of a warm, `taken` being the snapshots so far and `held` a key
seen in the live store. -/
structure Sound (layout : Layout) (digest : Tree → Bytes) (taken : Tree → Prop)
    (held : Option Bytes) (vm : Vm) : Prop where
  store : vm.liveLink = none ∨ ∃ slot tree content, vm.liveLink = some (layout.slotPath slot) ∧
    vm.slots slot = some tree ∧ taken content ∧ HoldsSnapshot layout digest content tree
  key : ∀ key, held = some key → vm.liveKey layout = some key
  loaded : vm.reloadDue = false → vm.loadedUnit = vm.installedUnit
  current : vm.restartDue = false → ∀ running, vm.running = some running →
    running = ⟨vm.installed, vm.liveMarker layout, vm.installedUnit⟩

def SshCall.written : SshCall → Option Slot
  | .clearSlot slot => some slot
  | .makeSlot slot => some slot
  | .extract slot _ => some slot
  | .copyKey _ target => some target
  | .linkLogs slot => some slot
  | _ => none

/-- The command does not write the slot the store link points at. -/
def Spares (layout : Layout) (vm : Vm) (call : SshCall) : Prop :=
  ∀ slot, call.written = some slot → vm.activeSlot layout ≠ some slot

section Sound

variable {layout : Layout} {sha256 : Bytes → Bytes} {digest : Tree → Bytes}
variable {taken : Tree → Prop} {held : Option Bytes} {vm after : Vm}

theorem Sound.same_store (sound : Sound layout digest taken held vm)
    (same : Vm.SameStore layout vm after)
    (loaded : after.reloadDue = false → after.loadedUnit = after.installedUnit)
    (current : after.restartDue = false → ∀ running, after.running = some running →
      running = ⟨after.installed, after.liveMarker layout, after.installedUnit⟩) :
    Sound layout digest taken held after where
  store := by
    rw [same.link]
    rcases sound.store with absent | ⟨slot, tree, content, link, stored, rest⟩
    · exact .inl absent
    · refine .inr ⟨slot, tree, content, link, ?_, rest⟩
      rw [same.slot slot (Vm.activeSlot_eq_some.mpr link), stored]
  key := by
    intro key known
    rw [same.liveKey, sound.key key known]
  loaded := loaded
  current := current

theorem Sound.same (sound : Sound layout digest taken held vm)
    (same : Vm.SameStore layout vm after) (service : Vm.SameService vm after)
    (due : after.restartDue = vm.restartDue) : Sound layout digest taken held after := by
  refine sound.same_store same ?_ ?_
  · rw [service.reloadDue, service.loadedUnit, service.installedUnit]
    exact sound.loaded
  · rw [due, service.running, service.installed, service.installedUnit, same.liveMarker]
    exact sound.current

theorem Sound.setSlot (sound : Sound layout digest taken held vm) {slot : Slot}
    (tree : Option Tree) (other : vm.activeSlot layout ≠ some slot) :
    Sound layout digest taken held (vm.setSlot slot tree) :=
  sound.same (.setSlot tree other) ⟨rfl, rfl, rfl, rfl, rfl⟩ rfl

/-- The correctness of a step of the warm. -/
def Steady (layout : Layout) (sha256 : Bytes → Bytes) (digest : Tree → Bytes)
    (taken : Tree → Prop) (held : Option Bytes) {α : Type} (post : α → Vm → Prop)
    (program : Warming α) (vm : Vm) : Prop :=
  Program.Careful (access layout sha256) (Spares layout) (Sound layout digest taken held) post
    program vm

theorem spares_of_none {call : SshCall} (quiet : call.written = none) : Spares layout vm call := by
  intro slot written
  rw [quiet] at written
  cases written

@[simp] theorem Turn.leaves_self (turn : Turn) (vm : Vm) : turn.leaves vm vm = vm := by
  unfold Turn.leaves
  split <;> rfl

theorem Turn.leaves_cases (turn : Turn) (vm next : Vm) :
    turn.leaves vm next = vm ∨ turn.leaves vm next = next := by
  unfold Turn.leaves
  split
  · exact .inl rfl
  · exact .inr rfl
  · exact .inr rfl

theorem Turn.extent_of_report {turn : Turn} {output : RemoteOutput}
    (reported : turn.report = some output) (success : output.success = true) :
    turn.extent = .whole := by
  unfold Turn.report at reported
  unfold Turn.extent
  cases fate : turn.fate with
  | done => rfl
  | lost extent =>
      rw [fate] at reported
      cases reported
  | refused extent =>
      rw [fate] at reported
      cases reported
      cases success

theorem Turn.eq_of_answer {turn : Turn} {output found : RemoteOutput}
    (answered : turn.answer output = some found) : found = output := by
  unfold Turn.answer at answered
  split at answered <;> cases answered
  · rfl
  · rfl

/-- A question. -/
theorem steady_run {step : String} {call : SshCall} (output : Turn → RemoteOutput)
    (quiet : call.written = none)
    (asks : ∀ turn, access layout sha256 turn vm call = (turn.answer (output turn), vm)) :
    Steady layout sha256 digest taken held
      (fun found after => after = vm ∧ ∃ turn, found = output turn) (run step call) vm := by
  refine Program.Careful.ask (fun _ => spares_of_none quiet) ?_ ?_
  · intro turn sound
    rw [asks turn]
    exact sound
  · intro turn found _ returned
    rw [asks turn] at returned ⊢
    split at returned
    · cases returned
      exact ⟨rfl, turn, turn.eq_of_answer ‹_›⟩
    · cases returned

/-- A command that must succeed. -/
theorem steady_runOk {step : String} {call : SshCall} {reached : Vm → Prop}
    (spares : Spares layout vm call)
    (does : ∀ turn, ∃ next, access layout sha256 turn vm call = (turn.report, turn.leaves vm next) ∧
      reached next ∧ (Sound layout digest taken held vm → Sound layout digest taken held next)) :
    Steady layout sha256 digest taken held (fun _ after => reached after) (runOk step call) vm := by
  refine Program.Careful.ask (fun _ => spares) ?_ ?_
  · intro turn sound
    obtain ⟨next, effect, -, kept⟩ := does turn
    rw [effect]
    rcases turn.leaves_cases vm next with same | same
    · rw [same]
      exact sound
    · rw [same]
      exact kept sound
  · intro turn _ _ returned
    obtain ⟨next, effect, reaches, -⟩ := does turn
    rw [effect] at returned ⊢
    split at returned
    · split at returned
      · rename_i reported success
        simp only [Turn.leaves, Turn.extent_of_report reported success]
        exact reaches
      · cases returned
    · cases returned

theorem steady_rewrite {step : String} (call : SshCall) {slot : Slot} {tree : Option Tree}
    (writes : call.written = some slot) (other : vm.activeSlot layout ≠ some slot)
    (does : ∀ turn, access layout sha256 turn vm call =
      (turn.report, turn.rewrites vm slot tree)) :
    Steady layout sha256 digest taken held (fun _ after => after = vm.setSlot slot tree)
      (runOk step call) vm := by
  refine Program.Careful.ask ?_ ?_ ?_
  · intro _ written same
    rw [writes] at same
    cases same
    exact other
  · intro turn sound
    rw [does turn]
    simp only [Turn.rewrites]
    split
    · exact sound
    · exact sound.setSlot _ other
    · exact sound.setSlot _ other
  · intro turn _ _ returned
    rw [does turn] at returned ⊢
    split at returned
    · split at returned
      · rename_i reported success
        simp only [Turn.rewrites, Turn.extent_of_report reported success]
      · cases returned
    · cases returned

/-- A command without an effect on what is modelled. -/
theorem steady_idle {step : String} {call : SshCall} (quiet : call.written = none)
    (does : ∀ turn, access layout sha256 turn vm call = (turn.report, vm)) :
    Steady layout sha256 digest taken held (fun _ after => after = vm) (runOk step call) vm := by
  refine steady_runOk (spares_of_none quiet) fun turn => ⟨vm, ?_, rfl, id⟩
  rw [does turn, turn.leaves_self]

theorem steady_forAccount {account : Option String} {command : String → Warming PUnit}
    (each : ∀ account, Steady layout sha256 digest taken held (fun _ after => after = vm)
      (command account) vm) :
    Steady layout sha256 digest taken held (fun _ after => after = vm)
      (forAccount account command) vm := by
  cases account with
  | none => exact Program.Careful.pure fun _ => rfl
  | some account => exact each account

theorem steady_readActiveSlot :
    Steady layout sha256 digest taken held
      (fun active after => after = vm ∧ active = vm.activeSlot layout)
      (readActiveSlot layout) vm := by
  refine Program.Careful.andThen _
    (steady_run (fun _ => outputOf (vm.liveLink.map pathBytes)) rfl fun _ => rfl) ?_
  rintro found after ⟨rfl, -, rfl⟩
  refine Program.Careful.pure fun sound => ⟨rfl, ?_⟩
  rcases sound.store with absent | ⟨slot, _, _, link, _⟩
  · simp [absent, outputOf, Vm.activeSlot]
  · rw [Vm.activeSlot_eq_some.mpr link, link]
    simp only [Option.map_some, outputOf, if_true]
    cases slot with
    | a => simp
    | b =>
        have apart : pathBytes (layout.slotPath .a) ≠ pathBytes (layout.slotPath .b) := by
          intro same
          cases slotPath_injective layout (pathBytes_injective same)
        simp [apart]

theorem nextSlot_ne (active : Option Slot) : active ≠ some (nextSlot active) := by
  rcases active with _ | _ | _ <;> decide

def Vm.withBinary (vm : Vm) (bytes : Bytes) : Vm :=
  { vm with installed := some bytes, staged := none, restartDue := true }

theorem Sound.withBinary (sound : Sound layout digest taken held vm) (bytes : Bytes) :
    Sound layout digest taken held (vm.withBinary bytes) :=
  sound.same_store ⟨rfl, fun _ _ => rfl⟩ sound.loaded fun due => by cases due

theorem steady_replaceBinary (localBytes : Bytes) :
    Steady layout sha256 digest taken held
      (fun changed after => changed = true ∧ after = vm.withBinary localBytes)
      (replaceBinary localBytes) vm := by
  refine Program.Careful.andThen (fun _ after =>
    after = { vm with staged := some localBytes }) ?_ ?_
  · refine steady_runOk (spares_of_none rfl) fun turn => ⟨_, rfl, rfl, fun sound => ?_⟩
    exact sound.same ⟨rfl, fun _ _ => rfl⟩ ⟨rfl, rfl, rfl, rfl, rfl⟩ rfl
  rintro _ after rfl
  refine Program.Careful.andThen _ (steady_idle rfl fun _ => rfl) ?_
  rintro _ after rfl
  refine Program.Careful.andThen _
    (steady_run (fun turn => ⟨turn.healthy, turn.printed⟩) rfl fun _ => rfl) ?_
  rintro probe after ⟨rfl, -⟩
  split
  · refine Program.Careful.andThen (fun _ after => after = vm.withBinary localBytes) ?_ ?_
    · refine steady_runOk (spares_of_none rfl) fun turn => ⟨_, rfl, rfl, fun sound => ?_⟩
      exact (sound.withBinary localBytes)
    · rintro _ after rfl
      exact Program.Careful.pure fun _ => ⟨rfl, rfl⟩
  · refine Program.Careful.andThen (fun _ _ => True) ?_
      fun _ _ _ => Program.Careful.throw _
    refine Program.Careful.rescue (steady_runOk (spares_of_none rfl) fun turn =>
      ⟨_, rfl, trivial, fun sound => ?_⟩) fun _ _ => trivial
    exact sound.same ⟨rfl, fun _ _ => rfl⟩ ⟨rfl, rfl, rfl, rfl, rfl⟩ rfl

/-- What `sync_binary` comes to with its answer set. -/
structure BinarySynced (sha256 : Bytes → Bytes) (localBytes : Bytes) (vm : Vm) (changed : Bool)
    (after : Vm) : Prop where
  decides : changed = true ↔ vm.installed.map sha256 ≠ some (sha256 localBytes)
  result : after = if changed then vm.withBinary localBytes else vm

theorem steady_syncBinary (input : WarmInput) :
    Steady layout sha256 digest taken held
      (fun changed after => ∀ localBytes, input.startBinary = some (some localBytes) →
        BinarySynced sha256 localBytes vm changed after)
      (syncBinary sha256 input) vm := by
  unfold syncBinary
  split
  · rename_i unanswered
    refine Program.Careful.andThen _
      (steady_run (fun _ => exitOf vm.installed.isSome) rfl fun _ => rfl) ?_
    rintro probe after ⟨rfl, -⟩
    split
    · refine Program.Careful.pure fun _ localBytes answered => ?_
      rw [unanswered] at answered
      cases answered
    · exact Program.Careful.throw _
  · exact Program.Careful.throw _
  · rename_i given answer
    refine Program.Careful.andThen _
      (steady_run (fun _ => outputOf (vm.installed.map sha256)) rfl fun _ => rfl) ?_
    rintro current after ⟨rfl, -, rfl⟩
    have hashed : (outputOf (after.installed.map sha256)).success = true ∧
        (outputOf (after.installed.map sha256)).stdout = sha256 given ↔
        after.installed.map sha256 = some (sha256 given) := by
      cases after.installed <;> simp [outputOf]
    split
    · rename_i same
      refine Program.Careful.pure fun _ localBytes answered => ?_
      rw [answer] at answered
      cases answered
      exact ⟨by simp [hashed.mp same], rfl⟩
    · rename_i differs
      refine (steady_replaceBinary given).mono ?_
      rintro changed next - ⟨rfl, rfl⟩ localBytes answered
      rw [answer] at answered
      cases answered
      refine ⟨?_, rfl⟩
      simpa [hashed] using differs

@[simp] theorem Vm.setSlot_setSlot (vm : Vm) (slot : Slot) (first second : Option Tree) :
    (vm.setSlot slot first).setSlot slot second = vm.setSlot slot second := by
  simp [Vm.setSlot]

@[simp] theorem Vm.setSlot_slots (vm : Vm) (slot : Slot) (tree : Option Tree) :
    (vm.setSlot slot tree).slots slot = tree := by
  simp [Vm.setSlot]

@[simp] theorem Vm.setSlot_activeSlot (layout : Layout) (vm : Vm) (slot : Slot)
    (tree : Option Tree) : (vm.setSlot slot tree).activeSlot layout = vm.activeSlot layout := rfl

theorem Vm.putNode_setSlot (vm : Vm) (slot : Slot) (tree : Tree) (path : PathBuf) (node : Node) :
    (vm.setSlot slot (some tree)).putNode slot path node =
      vm.setSlot slot (some (Function.update tree path (some node))) := by
  simp [Vm.putNode]

theorem overlay_emptyTree (archive : Tree) : overlay archive emptyTree = archive := by
  funext path
  simp [overlay, emptyTree]

/-- The slot that is not active holds the snapshot, and the key where there is
one. -/
structure Filled (layout : Layout) (digest : Tree → Bytes) (content : Tree) (vm : Vm)
    (slot : Slot) (tree : Tree) (after : Vm) : Prop where
  state : after = vm.setSlot slot (some tree)
  snapshot : HoldsSnapshot layout digest content tree
  key : ∀ key, vm.liveKey layout = some key → tree layout.keyPath = some (.file key)

variable {content : Tree} {slot : Slot}

theorem HoldsSnapshot.update {tree : Tree} (holds : HoldsSnapshot layout digest content tree)
    {path : PathBuf} (owned : path = layout.keyPath ∨ path = layout.logsPath)
    (node : Option Node) :
    HoldsSnapshot layout digest content (Function.update tree path node) := by
  intro other notKey notLogs
  have apart : other ≠ path := by
    rintro rfl
    rcases owned with same | same
    · exact notKey same
    · exact notLogs same
  rw [Function.update_of_ne apart]
  exact holds other notKey notLogs

theorem spares_other {call : SshCall} (writes : call.written = some slot)
    (other : vm.activeSlot layout ≠ some slot) : Spares layout vm call := by
  intro written same
  rw [writes] at same
  cases same
  exact other

theorem steady_fillSlot (other : vm.activeSlot layout ≠ some slot) (archive : Tree) :
    Steady layout sha256 digest taken held
      (fun _ after => after = vm.setSlot slot (some archive)) (fillSlot slot archive) vm := by
  refine Program.Careful.andThen _
    (steady_rewrite (.clearSlot slot) rfl other fun _ => rfl) ?_
  rintro _ after rfl
  refine Program.Careful.andThen (fun _ after =>
    after = vm.setSlot slot (some emptyTree)) ?_ ?_
  · refine steady_runOk (spares_other rfl other) fun turn => ⟨_, rfl, ?_, fun sound => ?_⟩
    · simp
    · exact sound.setSlot _ other
  · rintro _ after rfl
    have extracts : ∀ turn, access layout sha256 turn (vm.setSlot slot (some emptyTree))
        (.extract slot archive) = (turn.report, turn.rewrites (vm.setSlot slot (some emptyTree))
          slot (some (overlay archive emptyTree))) := by
      intro turn
      simp [access]
    have elsewhere : (vm.setSlot slot (some emptyTree)).activeSlot layout ≠ some slot := other
    refine (steady_rewrite (.extract slot archive) rfl elsewhere extracts).mono ?_
    rintro _ after - rfl
    simp [overlay_emptyTree]

theorem steady_carryKey {tree : Tree} (other : vm.activeSlot layout ≠ some slot)
    (holds : HoldsSnapshot layout digest content tree) :
    Steady layout sha256 digest taken held
      (fun _ after => ∃ tree, Filled layout digest content vm slot tree after)
      (carryKey (vm.activeSlot layout) slot) (vm.setSlot slot (some tree)) := by
  cases active : vm.activeSlot layout with
  | none =>
      refine Program.Careful.pure fun _ => ⟨tree, rfl, holds, ?_⟩
      intro key found
      simp [Vm.liveKey, active] at found
  | some source =>
      have same : (vm.setSlot slot (some tree)).keyIn layout source = vm.keyIn layout source := by
        have kept := (Vm.SameStore.setSlot (some tree) other).slot source active
        simp only [Vm.keyIn, Vm.nodeIn, kept]
      refine Program.Careful.andThen _ (steady_run
        (fun _ => exitOf ((vm.setSlot slot (some tree)).keyIn layout source).isSome) rfl
        fun _ => rfl) ?_
      rintro found after ⟨rfl, -, rfl⟩
      rw [same]
      cases stored : vm.keyIn layout source with
      | none =>
          refine Program.Careful.pure fun _ => ⟨tree, rfl, holds, ?_⟩
          intro key live
          simp [Vm.liveKey, active, stored] at live
      | some key =>
          refine steady_runOk (spares_other rfl other) fun turn =>
            ⟨(vm.setSlot slot (some tree)).putNode slot layout.keyPath (.file key), ?_, ?_, ?_⟩
          · simp only [access, same, stored]
          · rw [Vm.putNode_setSlot]
            refine ⟨_, rfl, holds.update (.inl rfl) _, ?_⟩
            intro other live
            simp only [Vm.liveKey, active, Option.bind_some, stored, Option.some.injEq] at live
            simp [live]
          · intro sound
            exact sound.setSlot _ other

theorem steady_linkLogs {tree : Tree} (other : vm.activeSlot layout ≠ some slot)
    (filled : Filled layout digest content vm slot tree after) {step : String} :
    Steady layout sha256 digest taken held
      (fun _ after => ∃ tree, Filled layout digest content vm slot tree after)
      (runOk step (.linkLogs slot)) after := by
  cases filled.state
  refine steady_runOk (spares_other rfl other) fun turn => ⟨_, rfl, ?_, fun sound => ?_⟩
  · rw [Vm.putNode_setSlot]
    refine ⟨_, rfl, filled.snapshot.update (.inr rfl) _, ?_⟩
    intro key live
    rw [Function.update_of_ne (keyPath_ne_logsPath layout)]
    exact filled.key key live
  · exact sound.setSlot _ other

def Vm.switched (layout : Layout) (vm : Vm) (slot : Slot) : Vm :=
  { vm with liveLink := some (layout.slotPath slot), nextLink := none, restartDue := true }

theorem Vm.switched_activeSlot (layout : Layout) (vm : Vm) (slot : Slot) :
    (vm.switched layout slot).activeSlot layout = some slot := activeSlot_eq_some.mpr rfl

theorem Filled.liveMarker {tree : Tree} (filled : Filled layout digest content vm slot tree after) :
    (after.switched layout slot).liveMarker layout = some (digest content) := by
  have marked := filled.snapshot markerPath (keyPath_ne_marker layout).symm
    (logsPath_ne_marker layout).symm
  unfold Vm.liveMarker
  rw [Vm.switched_activeSlot]
  simp [Vm.nodeIn, Vm.switched, filled.state, marked, withMarker]

/-- The switch shows the new snapshot and the old key. -/
theorem Filled.sound {tree : Tree} (filled : Filled layout digest content vm slot tree after)
    (sound : Sound layout digest taken held after) (other : vm.activeSlot layout ≠ some slot)
    (fresh : taken content) : Sound layout digest taken held (after.switched layout slot) where
  store := by
    refine .inr ⟨slot, tree, content, rfl, ?_, fresh, filled.snapshot⟩
    simp [Vm.switched, filled.state]
  key := by
    intro key known
    have live := sound.key key known
    rw [filled.state, (Vm.SameStore.setSlot (some tree) other).liveKey] at live
    unfold Vm.liveKey
    rw [Vm.switched_activeSlot]
    simp [Vm.keyIn, Vm.nodeIn, Vm.switched, filled.state, filled.key key live]
  loaded := sound.loaded
  current := fun due => by cases due

theorem steady_switchStore (input : WarmInput) (fresh : taken content) :
    Steady layout sha256 digest taken held
      (fun changed after => changed = true ∧ Vm.SameService vm after ∧
        after.liveMarker layout = some (digest content))
      (switchStore layout input (withMarker digest content)) vm := by
  refine Program.Careful.andThen _ steady_readActiveSlot ?_
  rintro active after ⟨rfl, rfl⟩
  have other := nextSlot_ne (after.activeSlot layout)
  refine Program.Careful.andThen _ (steady_fillSlot other _) ?_
  rintro _ vm1 rfl
  refine Program.Careful.andThen _ (steady_carryKey other fun _ _ _ => rfl) ?_
  rintro _ vm2 ⟨_, filled⟩
  refine Program.Careful.andThen _ (steady_linkLogs other filled) ?_
  rintro _ vm3 ⟨tree, filled⟩
  refine Program.Careful.andThen _ (steady_forAccount fun _ => steady_idle rfl fun _ => rfl) ?_
  rintro _ vm4 rfl
  refine Program.Careful.andThen (fun _ vm5 =>
    vm5 = { vm4 with nextLink := some (layout.slotPath (nextSlot (after.activeSlot layout))) }) ?_ ?_
  · refine steady_runOk (spares_of_none rfl) fun turn => ⟨_, rfl, rfl, fun sound => ?_⟩
    exact sound.same ⟨rfl, fun _ _ => rfl⟩ ⟨rfl, rfl, rfl, rfl, rfl⟩ rfl
  rintro _ vm5 rfl
  refine Program.Careful.andThen (fun _ vm6 =>
    vm6 = vm4.switched layout (nextSlot (after.activeSlot layout))) ?_ ?_
  · refine steady_runOk (spares_of_none rfl) fun turn => ⟨_, rfl, rfl, fun sound => ?_⟩
    have before : Sound layout digest taken held vm4 :=
      sound.same ⟨rfl, fun _ _ => rfl⟩ ⟨rfl, rfl, rfl, rfl, rfl⟩ rfl
    exact filled.sound before other fresh
  · rintro _ vm6 rfl
    refine Program.Careful.pure fun _ => ⟨rfl, ?_, filled.liveMarker⟩
    rw [filled.state]
    exact ⟨rfl, rfl, rfl, rfl, rfl⟩

/-- What `sync_store` comes to. -/
structure StoreSynced (layout : Layout) (digest : Tree → Bytes) (content : Tree) (vm : Vm)
    (changed : Bool) (after : Vm) : Prop where
  decides : changed = true ↔ vm.liveMarker layout ≠ some (digest content)
  service : Vm.SameService vm after
  marked : after.liveMarker layout = some (digest content)
  due : changed = false → after.restartDue = vm.restartDue

theorem steady_syncStore (input : WarmInput)
    (fresh : ∀ snapshot, input.snapshot = some snapshot → taken snapshot) :
    Steady layout sha256 digest taken held
      (fun changed after => ∃ snapshot, input.snapshot = some snapshot ∧
        StoreSynced layout digest snapshot vm changed after)
      (syncStore layout digest input) vm := by
  unfold syncStore
  cases given : input.snapshot with
  | none => exact Program.Careful.throw _
  | some snapshot =>
      refine Program.Careful.andThen _
        (steady_run (fun _ => outputOf (vm.liveMarker layout)) rfl fun _ => rfl) ?_
      rintro marker after ⟨rfl, -, rfl⟩
      have marked : (outputOf (after.liveMarker layout)).success = true ∧
          (outputOf (after.liveMarker layout)).stdout = digest snapshot ↔
          after.liveMarker layout = some (digest snapshot) := by
        cases after.liveMarker layout <;> simp [outputOf]
      split
      · rename_i same
        refine Program.Careful.andThen _ (steady_forAccount fun _ => steady_idle rfl fun _ => rfl) ?_
        rintro _ next rfl
        refine Program.Careful.pure fun _ => ⟨snapshot, rfl, ?_, .refl _, marked.mp same, ?_⟩
        · simp [marked.mp same]
        · exact fun _ => rfl
      · rename_i differs
        refine (steady_switchStore input (fresh snapshot given)).mono ?_
        rintro changed next - ⟨rfl, service, shown⟩
        refine ⟨snapshot, rfl, ?_, service, shown, fun wrong => by cases wrong⟩
        simpa [marked] using differs

def Vm.withUnit (vm : Vm) (text : Bytes) : Vm :=
  { vm with
    stagedUnit := some text
    installedUnit := some text
    loadedUnit := some text
    restartDue := true
    reloadDue := false }

/-- What `install_unit` comes to. -/
structure UnitSynced (text : Bytes) (vm : Vm) (changed : Bool) (after : Vm) : Prop where
  decides : changed = true ↔ vm.installedUnit ≠ some text
  result : after = if changed then vm.withUnit text else { vm with stagedUnit := some text }

theorem steady_installUnit (input : WarmInput) :
    Steady layout sha256 digest taken held (UnitSynced input.unit vm) (installUnit input) vm := by
  refine Program.Careful.andThen (fun _ after =>
    after = { vm with stagedUnit := some input.unit }) ?_ ?_
  · refine steady_runOk (spares_of_none rfl) fun turn => ⟨_, rfl, rfl, fun sound => ?_⟩
    exact sound.same ⟨rfl, fun _ _ => rfl⟩ ⟨rfl, rfl, rfl, rfl, rfl⟩ rfl
  rintro _ after rfl
  refine Program.Careful.andThen _
    (steady_run (fun _ => exitOf (some input.unit == vm.installedUnit)) rfl fun _ => rfl) ?_
  rintro compared after ⟨rfl, -, rfl⟩
  split
  · rename_i same
    have equal : some input.unit = vm.installedUnit := by simpa [exitOf] using same
    exact Program.Careful.pure fun _ => ⟨by simp [← equal], rfl⟩
  · rename_i differs
    have apart : ¬ some input.unit = vm.installedUnit := by simpa [exitOf] using differs
    refine Program.Careful.andThen (fun _ after => after = { vm with
      stagedUnit := some input.unit, installedUnit := some input.unit, restartDue := true,
      reloadDue := true }) ?_ ?_
    · refine steady_runOk (spares_of_none rfl) fun turn => ⟨_, rfl, rfl, fun sound => ?_⟩
      exact sound.same_store ⟨rfl, fun _ _ => rfl⟩ (fun due => by cases due)
        (fun due => by cases due)
    rintro _ after rfl
    refine Program.Careful.andThen (fun _ after => after = vm.withUnit input.unit) ?_ ?_
    · refine steady_runOk (spares_of_none rfl) fun turn => ⟨_, rfl, rfl, fun sound => ?_⟩
      exact sound.same_store ⟨rfl, fun _ _ => rfl⟩ (fun _ => rfl) (fun due => by cases due)
    · rintro _ after rfl
      exact Program.Careful.pure fun _ => ⟨⟨fun _ same => apart same.symm, fun _ => rfl⟩, rfl⟩

theorem Sound.loadUnits (sound : Sound layout digest taken held vm) :
    Sound layout digest taken held vm.loadUnits :=
  sound.same_store ⟨rfl, fun _ _ => rfl⟩ (fun _ => rfl) sound.current

/-- A service started with the units read again is started with what is there. -/
theorem Sound.launch (sound : Sound layout digest taken held vm.loadUnits) (healthy : Bool) :
    Sound layout digest taken held (vm.loadUnits.launch layout healthy) := by
  refine sound.same_store ⟨rfl, fun _ _ => rfl⟩ (fun _ => rfl) ?_
  intro _ running started
  cases healthy <;> cases started
  rfl

theorem Sound.start (sound : Sound layout digest taken held vm) (healthy : Bool) :
    Sound layout digest taken held (vm.loadUnits.start layout healthy) := by
  unfold Vm.start
  split
  · exact sound.loadUnits
  · exact sound.loadUnits.launch healthy

/-- The state a start leads to: the files as before, the units read, and a start
or restart where there was reason to. -/
structure Started (layout : Layout) (changed : Bool) (vm after : Vm) : Prop where
  installed : after.installed = vm.installed
  installedUnit : after.installedUnit = vm.installedUnit
  liveMarker : after.liveMarker layout = vm.liveMarker layout
  reloadDue : after.reloadDue = false
  restartDue : after.restartDue = false ↔
    changed = true ∨ vm.running = none ∨ vm.restartDue = false

theorem steady_checkService :
    Steady layout sha256 digest taken held
      (fun _ after => after = vm ∧ vm.running.isSome = true) checkService vm := by
  refine Program.Careful.andThen _ (steady_run (fun _ =>
    if vm.running.isSome then ⟨true, activeText⟩ else ⟨false, inactiveText⟩) rfl fun _ => rfl) ?_
  rintro found after ⟨rfl, -, rfl⟩
  split
  · rename_i active
    refine Program.Careful.pure fun _ => ⟨rfl, ?_⟩
    by_contra stopped
    simp [stopped] at active
  · refine Program.Careful.andThen (fun _ _ => True) ?_ fun _ _ _ => Program.Careful.throw _
    refine Program.Careful.rescue ?_ fun _ _ => trivial
    refine Program.Careful.ask (fun _ => spares_of_none rfl) (fun _ sound => sound) ?_
    exact fun _ _ _ _ => trivial

theorem steady_startService (changed : Bool) :
    Steady layout sha256 digest taken held
      (fun _ after => Started layout changed vm after ∧ after.running.isSome = true)
      (startService changed) vm := by
  have last : ∀ next, Started layout changed vm next →
      Steady layout sha256 digest taken held
        (fun _ after => Started layout changed vm after ∧ after.running.isSome = true)
        (do
          runOk "letting the service settle" .settle
          checkService) next := by
    intro next started
    refine Program.Careful.andThen _ (steady_idle rfl fun _ => rfl) ?_
    rintro _ after rfl
    refine steady_checkService.mono ?_
    rintro _ after - ⟨rfl, running⟩
    exact ⟨started, running⟩
  unfold startService
  cases changed with
  | true =>
      refine Program.Careful.andThen (fun _ after => after = vm.loadUnits) ?_ ?_
      · exact steady_runOk (spares_of_none rfl) fun turn => ⟨_, rfl, rfl, Sound.loadUnits⟩
      rintro _ after rfl
      refine Program.Careful.andThen (fun _ after => Started layout true vm after) ?_
        fun _ next started => last next started
      refine steady_runOk (spares_of_none rfl) fun turn =>
        ⟨_, rfl, ⟨rfl, rfl, rfl, rfl, by simp [Vm.launch]⟩, fun sound => sound.launch _⟩
  | false =>
      refine Program.Careful.andThen (fun _ after => Started layout false vm after) ?_
        fun _ next started => last next started
      refine steady_runOk (spares_of_none rfl) fun turn =>
        ⟨_, rfl, ?_, fun sound => sound.start _⟩
      unfold Vm.start
      cases running : vm.running with
      | none =>
          have stopped : ¬ vm.loadUnits.running.isSome = true := by simp [Vm.loadUnits, running]
          rw [if_neg stopped]
          exact ⟨rfl, rfl, rfl, rfl, by simp [Vm.launch, running]⟩
      | some process =>
          have runs : vm.loadUnits.running.isSome = true := by simp [Vm.loadUnits, running]
          rw [if_pos runs]
          exact ⟨rfl, rfl, rfl, rfl, by simp [Vm.loadUnits, running]⟩

/-- What is installed is what a warm brings, by the hashes it compares. -/
def Vm.Matches (layout : Layout) (sha256 : Bytes → Bytes) (digest : Tree → Bytes)
    (localBytes : Bytes) (content : Tree) (unit : Bytes) (vm : Vm) : Prop :=
  vm.installed.map sha256 = some (sha256 localBytes) ∧
    vm.liveMarker layout = some (digest content) ∧ vm.installedUnit = some unit

/-- What a warm comes to that returns. -/
structure Warmed (layout : Layout) (sha256 : Bytes → Bytes) (digest : Tree → Bytes)
    (localBytes : Bytes) (content : Tree) (unit : Bytes) (vm after : Vm) : Prop where
  installed : after.Matches layout sha256 digest localBytes content unit
  reloadDue : after.reloadDue = false
  running : after.running.isSome = true
  restartDue : after.restartDue = false ↔
    ¬ vm.Matches layout sha256 digest localBytes content unit ∨ vm.running = none ∨
      vm.restartDue = false

/-- The three steps and the start, put together. -/
theorem warmed_of_steps {localBytes unit : Bytes} {vm1 vm2 vm3 : Vm}
    {newBinary newStore newUnit : Bool}
    (binary : BinarySynced sha256 localBytes vm newBinary vm1)
    (store : StoreSynced layout digest content vm1 newStore vm2)
    (service : UnitSynced unit vm2 newUnit vm3)
    (started : Started layout (newBinary || newStore || newUnit) vm3 after)
    (running : after.running.isSome = true) :
    Warmed layout sha256 digest localBytes content unit vm after := by
  have installed : vm1.installed.map sha256 = some (sha256 localBytes) := by
    rw [binary.result]
    cases newBinary with
    | true => rfl
    | false => exact not_not.mp (mt binary.decides.mpr (by simp))
  have before : vm1.liveMarker layout = vm.liveMarker layout ∧
      vm1.installedUnit = vm.installedUnit ∧ vm1.running = vm.running := by
    rw [binary.result]
    cases newBinary <;> exact ⟨rfl, rfl, rfl⟩
  have later : vm3.installed = vm2.installed ∧ vm3.liveMarker layout = vm2.liveMarker layout ∧
      vm3.installedUnit = some unit ∧ vm3.running = vm2.running := by
    rw [service.result]
    cases newUnit with
    | true => exact ⟨rfl, rfl, rfl, rfl⟩
    | false => exact ⟨rfl, rfl, not_not.mp (mt service.decides.mpr (by simp)), rfl⟩
  have changes : (newBinary || newStore || newUnit) = true ↔
      ¬ vm.Matches layout sha256 digest localBytes content unit := by
    rw [Bool.or_eq_true, Bool.or_eq_true, binary.decides, store.decides, service.decides,
      before.1, store.service.installedUnit, before.2.1]
    unfold Vm.Matches
    tauto
  refine ⟨⟨?_, ?_, ?_⟩, started.reloadDue, running, ?_⟩
  · rw [started.installed, later.1, store.service.installed, installed]
  · rw [started.liveMarker, later.2.1, store.marked]
  · rw [started.installedUnit, later.2.2.1]
  · rw [started.restartDue, changes, later.2.2.2, store.service.running, before.2.2]
    by_cases changed : (newBinary || newStore || newUnit) = true
    · simp [changes.mp changed]
    · simp only [Bool.not_eq_true, Bool.or_eq_false_iff] at changed
      have due : vm3.restartDue = vm.restartDue := by
        rw [service.result, changed.2]
        simp only [Bool.false_eq_true, if_false]
        rw [store.due changed.1.2, binary.result, changed.1.1]
        rfl
      rw [due]

theorem steady_warm (input : WarmInput)
    (fresh : ∀ snapshot, input.snapshot = some snapshot → taken snapshot) :
    Steady layout sha256 digest taken held
      (fun _ after => ∀ localBytes, input.startBinary = some (some localBytes) →
        ∃ snapshot, input.snapshot = some snapshot ∧
          Warmed layout sha256 digest localBytes snapshot input.unit vm after)
      (warm layout sha256 digest input) vm := by
  refine Program.Careful.andThen _ (steady_forAccount fun _ => steady_idle rfl fun _ => rfl) ?_
  rintro _ after rfl
  refine Program.Careful.andThen _ (steady_idle rfl fun _ => rfl) ?_
  rintro _ after rfl
  refine Program.Careful.andThen _ (steady_forAccount fun _ => steady_idle rfl fun _ => rfl) ?_
  rintro _ after rfl
  refine Program.Careful.andThen _ (steady_syncBinary input) ?_
  intro newBinary vm1 binary
  refine Program.Careful.andThen _ (steady_syncStore input fresh) ?_
  rintro newStore vm2 ⟨snapshot, given, store⟩
  refine Program.Careful.andThen _ (steady_installUnit input) ?_
  intro newUnit vm3 service
  refine Program.Careful.andThen _ (steady_startService _) ?_
  rintro _ last ⟨started, running⟩
  refine Program.Careful.pure fun _ localBytes answered => ⟨snapshot, given, ?_⟩
  exact warmed_of_steps (binary localBytes answered) store service started running

end Sound

end GreenticDeployer.Ssh
