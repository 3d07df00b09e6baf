import GreenticDeployer.Ssh.Steps

/-!
# Warm after warm on one VM

Every warm may fail or stop at any of its commands; the next one starts from what
is there. The store stays whole throughout. The service is not always brought up
to date: a warm restarts it only for what it changed itself.
-/

set_option maxHeartbeats 200000

namespace GreenticDeployer.Ssh

open Spec Lib

def sampleLayout : Layout := ⟨"/opt/greentic", "prod"⟩

def sampleVm : Vm :=
  ⟨none, none, fun _ => none, none, none, none, none, none, none, false, false⟩

def sampleContent (revision : UInt8) : Tree := fun path =>
  if path = "prod/environment.json" then some (.file [revision]) else none

def sampleInput (binary revision : UInt8) : WarmInput where
  foreignServiceUser := none
  startBinary := some (some [binary])
  snapshot := some (sampleContent revision)
  unit := [9]

/-- A hash that tells the sample snapshots apart. -/
def sampleDigest (content : Tree) : Bytes :=
  match content "prod/environment.json" with
  | some (.file bytes) => bytes
  | _ => []

def wellTurns (n : Nat) : List Turn := List.replicate n ⟨.done, none, true, [1]⟩

section Runs

variable {layout : Layout} {sha256 : Bytes → Bytes} {digest : Tree → Bytes}
variable {taken : Tree → Prop} {held : Option Bytes} {vm : Vm}

/-- A VM without a store of ours yet. Where the service or systemd is behind what
is installed, the flags say so. -/
structure Vm.Fresh (layout : Layout) (vm : Vm) : Prop where
  unlinked : vm.liveLink = none
  loaded : vm.reloadDue = false → vm.loadedUnit = vm.installedUnit
  current : vm.restartDue = false → ∀ running, vm.running = some running →
    running = ⟨vm.installed, vm.liveMarker layout, vm.installedUnit⟩

theorem sampleVm_fresh : sampleVm.Fresh sampleLayout where
  unlinked := rfl
  loaded := fun _ => rfl
  current := fun _ _ wrong => by cases wrong

/-- The snapshots an action may leave in a slot. -/
def Action.Supplies (taken : Tree → Prop) : Action → Prop
  | .warm input _ => ∀ snapshot, input.snapshot = some snapshot → taken snapshot
  | .keyWritten _ => True

theorem Action.supplies_any (action : Action) : action.Supplies fun _ => True := by
  cases action with
  | warm input turns => exact fun _ _ => trivial
  | keyWritten key => trivial

theorem Vm.Fresh.sound (fresh : vm.Fresh layout) : Sound layout digest taken none vm where
  store := .inl fresh.unlinked
  key := fun _ wrong => by cases wrong
  loaded := fresh.loaded
  current := fresh.current

/-- The runtime adds its key beside the snapshot. -/
theorem Sound.writeKey (sound : Sound layout digest taken held vm) (key : Bytes) :
    Sound layout digest taken held (writeKey layout vm key) := by
  unfold Ssh.writeKey
  cases active : vm.activeSlot layout with
  | none => exact sound
  | some slot =>
      dsimp only
      cases stored : vm.keyIn layout slot with
      | some present => exact sound
      | none =>
          have link := Vm.activeSlot_eq_some.mp active
          rcases sound.store with absent | ⟨other, tree, content, linked, found, fresh, holds⟩
          · rw [absent] at link
            cases link
          · rw [link] at linked
            cases slotPath_injective layout (Option.some.inj linked)
            have put : vm.putNode slot layout.keyPath (.file key) =
                vm.setSlot slot (some (Function.update tree layout.keyPath (some (.file key)))) := by
              simp [Vm.putNode, found]
            have marker : (vm.putNode slot layout.keyPath (.file key)).liveMarker layout =
                vm.liveMarker layout := by
              rw [put]
              simp [Vm.liveMarker, active, Vm.nodeIn, found, (keyPath_ne_marker layout).symm]
            rw [if_neg (by simp)]
            have kept := holds.update (.inl rfl) (some (.file key))
            refine ⟨.inr ⟨slot, _, content, link, ?_, fresh, kept⟩, ?_, sound.loaded, ?_⟩
            · rw [put, Vm.setSlot_slots]
            · intro known held
              have live := sound.key known held
              simp [Vm.liveKey, active, stored] at live
            · rw [marker]
              exact sound.current

theorem Sound.step (sound : Sound layout digest taken held vm) (action : Action)
    (supplies : action.Supplies taken) :
    Sound layout digest taken held ((vmSystem layout sha256 digest).step vm action) := by
  cases action with
  | warm input turns => exact (steady_warm input supplies).cut sound turns
  | keyWritten key => exact sound.writeKey key

theorem Sound.run (sound : Sound layout digest taken held vm) (actions : List Action)
    (supplies : ∀ action ∈ actions, action.Supplies taken) :
    Sound layout digest taken held ((vmSystem layout sha256 digest).run vm actions) := by
  induction actions generalizing vm with
  | nil => exact sound
  | cons action rest ih =>
      have first : Sound layout digest taken held
          ((vmSystem layout sha256 digest).step vm action) :=
        sound.step action (supplies action List.mem_cons_self)
      exact ih first fun later member => supplies later (List.mem_cons_of_mem _ member)

theorem Sound.seen (sound : Sound layout digest taken held vm) :
    Sound layout digest (fun _ => True) (vm.liveKey layout) vm where
  store := by
    rcases sound.store with absent | ⟨slot, tree, content, link, stored, _, holds⟩
    · exact .inl absent
    · exact .inr ⟨slot, tree, content, link, stored, trivial, holds⟩
  key := fun _ same => same
  loaded := sound.loaded
  current := sound.current

/-- Some warm of the run took this snapshot. -/
def TakenIn (actions : List Action) (content : Tree) : Prop :=
  ∃ input turns snapshot, Action.warm input turns ∈ actions ∧ input.snapshot = some snapshot ∧
    snapshot = content

theorem Vm.Fresh.run (fresh : vm.Fresh layout) (actions : List Action) :
    Sound layout digest (TakenIn actions) none ((vmSystem layout sha256 digest).run vm actions) := by
  refine fresh.sound.run actions ?_
  intro action member
  cases action with
  | warm input turns => exact fun snapshot given => ⟨input, turns, snapshot, member, given, rfl⟩
  | keyWritten key => trivial

/-- However warms fail, the link names a whole snapshot or is absent, no command
of the next warm writes the slot it names, and a signing key once in the live
store stays there. -/
theorem store_switch_is_atomic (layout : Layout) (sha256 : Bytes → Bytes)
    (digest : Tree → Bytes) (start : Vm) (fresh : start.Fresh layout)
    (actions : List Action) :
    let vm := (vmSystem layout sha256 digest).run start actions
    (vm.liveLink = none ∨ ∃ slot tree content, vm.liveLink = some (layout.slotPath slot) ∧
      vm.slots slot = some tree ∧ TakenIn actions content ∧
      HoldsSnapshot layout digest content tree) ∧
    (∀ (input : WarmInput) turns, ∀ entry ∈ ((warm layout sha256 digest input).run.cut
        (Program.recorded (access layout sha256)) (vm, []) turns).2,
      Spares layout entry.1 entry.2) ∧
    ∀ key later, vm.liveKey layout = some key →
      ((vmSystem layout sha256 digest).run vm later).liveKey layout = some key := by
  intro vm
  have sound : Sound layout digest (TakenIn actions) none vm := fresh.run actions
  refine ⟨sound.store, ?_, ?_⟩
  · intro input turns
    have supplied : ∀ snapshot, input.snapshot = some snapshot → True := fun _ _ => trivial
    exact (steady_warm input supplied).calls sound.seen turns
  · intro key later live
    exact (sound.seen.run later fun action _ => action.supplies_any).key key live

/-- A second warm cut off while it fills the other slot leaves the first store and
the key the runtime has written. -/
theorem key_outlives_cut_warm :
    sampleVm.Fresh sampleLayout ∧
    ((vmSystem sampleLayout id sampleDigest).run
      ((vmSystem sampleLayout id sampleDigest).run sampleVm
        [.warm (sampleInput 1 1) (wellTurns 40), .keyWritten [7]])
      [.warm (sampleInput 1 2) (wellTurns 8), .warm (sampleInput 1 3) (wellTurns 40)]).liveKey
        sampleLayout = some [7] := by
  have atomic := store_switch_is_atomic sampleLayout id sampleDigest sampleVm sampleVm_fresh
    [.warm (sampleInput 1 1) (wellTurns 40), .keyWritten [7]]
  exact ⟨sampleVm_fresh, atomic.2.2 [7] _ (by decide)⟩

/-- The service was started after the last change, with the units read again, and
runs the binary, store and unit the warm brought. -/
structure Converged (layout : Layout) (sha256 : Bytes → Bytes) (digest : Tree → Bytes)
    (localBytes : Bytes) (content : Tree) (unit : Bytes) (vm : Vm) : Prop where
  installed : vm.Matches layout sha256 digest localBytes content unit
  restarted : vm.restartDue = false
  reloaded : vm.reloadDue = false
  runs : vm.running = some ⟨vm.installed, vm.liveMarker layout, vm.installedUnit⟩

theorem Warmed.converged_iff {localBytes unit : Bytes} {content : Tree} {after : Vm}
    (warmed : Warmed layout sha256 digest localBytes content unit vm after)
    (sound : Sound layout digest taken held after) :
    Converged layout sha256 digest localBytes content unit after ↔
      ¬ vm.Matches layout sha256 digest localBytes content unit ∨ vm.running = none ∨
        vm.restartDue = false := by
  rw [← warmed.restartDue]
  constructor
  · exact Converged.restarted
  · intro restarted
    refine ⟨warmed.installed, restarted, warmed.reloadDue, ?_⟩
    obtain ⟨running, started⟩ := Option.isSome_iff_exists.mp warmed.running
    rw [started, sound.current restarted running started]

/-- A warm that returns has brought the service up to date exactly if it found
something to change, or no service running, or no change since its last start. -/
theorem warm_converges_iff (layout : Layout) (sha256 : Bytes → Bytes)
    (digest : Tree → Bytes) (start : Vm) (fresh : start.Fresh layout)
    (actions : List Action) (input : WarmInput) (localBytes : Bytes)
    (answered : input.startBinary = some (some localBytes)) (turns : List Turn) (changed : Bool)
    (returned : (warm layout sha256 digest input).run.outcome (access layout sha256)
      ((vmSystem layout sha256 digest).run start actions) turns = some (.ok changed)) :
    ∃ snapshot, input.snapshot = some snapshot ∧
      let vm := (vmSystem layout sha256 digest).run start actions
      (Converged layout sha256 digest localBytes snapshot input.unit
          ((vmSystem layout sha256 digest).step vm (.warm input turns)) ↔
        ¬ vm.Matches layout sha256 digest localBytes snapshot input.unit ∨
          vm.running = none ∨ vm.restartDue = false) := by
  have before : Sound layout digest (fun _ => True) none
      ((vmSystem layout sha256 digest).run start actions) :=
    fresh.sound.run actions fun action _ => action.supplies_any
  have steady : Steady layout sha256 digest (fun _ => True) none _ (warm layout sha256 digest input)
      ((vmSystem layout sha256 digest).run start actions) :=
    steady_warm input fun _ _ => trivial
  obtain ⟨snapshot, given, warmed⟩ := steady.outcome before turns returned localBytes answered
  exact ⟨snapshot, given, warmed.converged_iff (steady.cut before turns)⟩

/-- A warm with another binary after a good one is up to date. -/
theorem second_binary_is_run :
    ∃ snapshot, (sampleInput 2 1).snapshot = some snapshot ∧
      Converged sampleLayout id sampleDigest [2] snapshot [9]
        ((vmSystem sampleLayout id sampleDigest).step
          ((vmSystem sampleLayout id sampleDigest).run sampleVm
            [.warm (sampleInput 1 1) (wellTurns 40)])
          (.warm (sampleInput 2 1) (wellTurns 40))) := by
  obtain ⟨snapshot, given, converges⟩ := warm_converges_iff sampleLayout id sampleDigest sampleVm
    sampleVm_fresh [.warm (sampleInput 1 1) (wellTurns 40)] (sampleInput 2 1) [2] rfl
    (wellTurns 40) true (by decide)
  exact ⟨snapshot, given, converges.mpr (.inr (.inr (by decide)))⟩

/-- The first warm runs binary 1. The second installs binary 2 and loses its
connection before the restart. The third, with the same binary, finds nothing to
change and returns, and the service still runs binary 1. -/
theorem restart_is_lost_with_failed_warm :
    let vm := (vmSystem sampleLayout id sampleDigest).run sampleVm
      [.warm (sampleInput 1 1) (wellTurns 40),
        .warm (sampleInput 2 1) (wellTurns 6 ++ [⟨.lost .nothing, none, true, []⟩])]
    let after := (vmSystem sampleLayout id sampleDigest).step vm
      (.warm (sampleInput 2 1) (wellTurns 40))
    sampleVm.Fresh sampleLayout ∧
    (warm sampleLayout id sampleDigest (sampleInput 2 1)).run.outcome (access sampleLayout id) vm
      (wellTurns 40) = some (.ok false) ∧
    after.installed = some [2] ∧ after.running.bind (·.binary) = some [1] ∧
    ∀ content, ¬ Converged sampleLayout id sampleDigest [2] content [9] after := by
  intro vm after
  refine ⟨sampleVm_fresh, by decide, by decide, by decide, ?_⟩
  intro content converged
  have due : after.restartDue = true := by decide
  rw [converged.restarted] at due
  cases due

end Runs

end GreenticDeployer.Ssh
