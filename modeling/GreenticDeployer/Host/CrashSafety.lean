import GreenticDeployer.Host.Recovery
import GreenticDeployer.Lib.Results

/-!
# Crash safety of the service transaction

From the write of its journal on, a transaction has either the journal on disk or
its whole plan in place, healthy; the failure path keeps to that as well. Between
transactions the managed files are therefore the previous contents or a plan.
-/

set_option maxHeartbeats 200000

namespace GreenticDeployer.Host

open Spec Engine Lib

variable {layout : Layout} {json : HostJson} {policy : HostDeploymentPolicy} {initial : Disk}
variable {plan : PlanOver layout} {among : Turn → Prop} {state after : HostState layout}
variable {inv : HostState layout → Prop}

theorem and_777 {mode : Mode} (moderate : mode &&& ~~~0o755 = 0) : mode &&& 0o777 = mode := by
  have within : mode &&& 0o755 = mode := by
    calc mode &&& 0o755 = (mode &&& 0o755) ||| (mode &&& ~~~0o755) := by rw [moderate]; simp
      _ = mode &&& (0o755 ||| ~~~0o755) := (BitVec.and_or_distrib_left ..).symm
      _ = mode := by
        have all : (0o755 ||| ~~~0o755 : Mode) = BitVec.allOnes 32 := by decide
        rw [all, BitVec.and_allOnes]
  have smaller : (0o755 &&& 0o777 : Mode) = 0o755 := by decide
  rw [← within, BitVec.and_assoc, smaller]

theorem safe_readBounded {path : PathBuf} {bytes : Bytes} {mode : Mode}
    (stored : state.disk path = some (.file bytes mode)) (held : inv state) :
    (readBounded path).run.Safe (exec plan) among inv (Ends False fun found after =>
      after = state ∧ found = bytes ∧ bytes.length ≤ maxConfigBytes) state := by
  refine safe_then (fun found after => after = state ∧ found = bytes.take (maxConfigBytes + 1))
    ?_ ?_
  · refine safe_quiet rfl held ?_
    intro turn _
    simp only [access, stored]
    cases replied : turn.reply (bytes.take (maxConfigBytes + 1)) with
    | ok found => exact .ok ⟨rfl, (effective_of_reply replied).2.symm⟩
    | error e => exact .error _ id
  · rintro found next _ ⟨same, rfl⟩
    subst next
    split
    · exact ⟨held, .error _ id⟩
    · rename_i within
      rw [List.length_take] at within
      have short : bytes.length ≤ maxConfigBytes := by omega
      exact ⟨held, .ok ⟨rfl, List.take_of_length_le (by omega), short⟩⟩

theorem safe_symlinkMetadata (path : PathBuf) (held : inv state) :
    (symlinkMetadata path).run.Safe (exec plan) among inv (Ends False fun found after =>
      after = state ∧ found = state.disk path) state := by
  refine safe_quiet rfl held ?_
  intro turn _
  simp only [access]
  cases present : state.disk path with
  | none => exact .ok ⟨rfl, rfl⟩
  | some entry =>
      dsimp only
      cases replied : turn.reply entry with
      | ok found =>
          cases (effective_of_reply replied).2
          exact .ok ⟨rfl, rfl⟩
      | error e =>
          cases e with
          | notFound =>
              unfold Turn.reply at replied
              split at replied <;> cases replied
          | other text => exact .error _ id

structure Saves (disk : Disk) (saved : SavedFile) : Prop where
  admissible : saved.admissible = true
  contents : disk saved.path = saved.entry

theorem safe_saveFile {path : PathBuf} (moderate : ∀ bytes mode,
      state.disk path = some (.file bytes mode) → mode &&& ~~~0o755 = 0) (held : inv state) :
    (saveFile path).run.Safe (exec plan) among inv (Ends False fun saved after =>
      after = state ∧ saved.path = path ∧ Saves state.disk saved) state := by
  refine safe_then _ (safe_symlinkMetadata path held) ?_
  rintro found next _ ⟨same, rfl⟩
  subst next
  cases present : state.disk path with
  | none =>
      refine ⟨held, .ok ⟨rfl, rfl, ⟨?_, present⟩⟩⟩
      have private_ : (0o600 &&& ~~~0o755 : Mode) = 0 := by decide
      exact decide_eq_true ⟨private_, fun _ wrong => by cases wrong⟩
  | some entry =>
      cases entry with
      | irregular => exact ⟨held, .error _ id⟩
      | file bytes mode =>
          refine safe_then _ (safe_readBounded present held) ?_
          rintro read next _ ⟨same, rfl, short⟩
          subst next
          have kept := and_777 (moderate read mode present)
          refine ⟨held, .ok ⟨rfl, rfl, ⟨?_, ?_⟩⟩⟩
          · simp only [SavedFile.admissible, kept, moderate read mode present, true_and,
              Option.mem_some_iff, decide_eq_true_eq]
            rintro _ rfl
            exact short
          · simp only [SavedFile.entry, Option.map_some, kept]
            exact present

theorem safe_saveFiles (paths : List PathBuf) (moderate : ∀ path ∈ paths, ∀ bytes mode,
      state.disk path = some (.file bytes mode) → mode &&& ~~~0o755 = 0) (held : inv state) :
    (saveFiles paths).run.Safe (exec plan) among inv (Ends False fun saved after =>
      after = state ∧ saved.map (·.path) = paths ∧ ∀ file ∈ saved, Saves state.disk file)
      state := by
  induction paths with
  | nil => exact ⟨held, .ok ⟨rfl, rfl, by simp⟩⟩
  | cons path rest ih =>
      refine safe_then _ (safe_saveFile (moderate path List.mem_cons_self) held) ?_
      rintro first next _ ⟨same, rfl, saves⟩
      subst next
      refine safe_then _ (ih fun path member => moderate path (List.mem_cons_of_mem _ member)) ?_
      rintro others next _ ⟨same, rfl, rest⟩
      subst next
      refine ⟨held, .ok ⟨rfl, rfl, ?_⟩⟩
      intro file member
      rcases List.mem_cons.mp member with rfl | later
      · exact saves
      · exact rest file later

theorem safe_lift {α : Type} {outcome : Except DeployerError α} (held : inv state) :
    (Program.lift outcome : Hosting α).run.Safe (exec plan) among inv (Ends False fun value after =>
      after = state ∧ outcome = .ok value) state :=
  ⟨held, fun _ returned => ⟨rfl, returned⟩, False.elim⟩

theorem safe_query {call : HostCall} {sort : call.Reply → Except DeployerError Bool}
    (harmless : quiet call = true) (held : inv state) :
    (Program.ask call sort : Hosting Bool).run.Safe (exec plan) among inv
      (Ends False fun _ after => after = state) state :=
  safe_quiet harmless held fun _ _ => ⟨fun _ _ => rfl, False.elim⟩

theorem safe_saveJournal (moderate : Moderate layout state.disk) (held : inv state) :
    (saveJournal plan.toValidatedHostPlan layout.root).run.Safe (exec plan) among inv
      (Ends False fun journal after => after = state ∧ Holds layout journal state.disk) state := by
  unfold saveJournal
  rw [expectedPaths_eq]
  refine safe_then _ (safe_saveFiles layout.managed moderate held) ?_
  rintro saved next _ ⟨same, paths, saves⟩
  subst next
  refine safe_then _ (safe_query rfl held) ?_
  rintro enabled next _ same
  subst next
  refine safe_then _ (safe_query rfl held) ?_
  rintro active next _ same
  subst next
  exact ⟨held, .ok ⟨rfl, plan.named, paths, fun file member => (saves file member).admissible,
    fun file member => (saves file member).contents⟩⟩

structure Underway (json : HostJson) (policy : HostDeploymentPolicy) (initial : Disk)
    (plan : PlanOver layout) (journal : Journal) (bytes : Bytes) (state : HostState layout) :
    Prop where
  frame : ∀ path, path ∉ layout.managed → path ≠ layout.pending →
    state.disk path = initial path
  begun : state.begun = true
  last : state.last = some plan
  holds : Holds layout journal state.before
  covered : state.disk layout.pending = some (.file bytes tempMode) ∨
    state.disk layout.pending = none ∧ Installs json policy plan state.disk ∧ state.healthy = true

section Body

variable {journal : Journal} {bytes : Bytes}

theorem keeps_of_stored (short : bytes.length ≤ journalLimit)
    (decoded : json.journal.fromValue bytes = .ok journal)
    (stored : state.disk layout.pending = some (.file bytes tempMode)) :
    Keeps json layout journal state.disk :=
  ⟨bytes, tempMode, stored, short, decoded⟩

theorem Underway.steady (underway : Underway json policy initial plan journal bytes state)
    (short : bytes.length ≤ journalLimit) (decoded : json.journal.fromValue bytes = .ok journal) :
    Steady json policy initial state where
  frame := underway.frame
  standing := by
    rcases underway.covered with stored | ⟨absent, installs, healthy⟩
    · exact .pending (keeps_of_stored short decoded stored) underway.holds
    · exact .installed absent underway.last installs healthy

theorem Underway.set (underway : Underway json policy initial plan journal bytes state)
    (stored : state.disk layout.pending = some (.file bytes tempMode)) {path : PathBuf}
    (member : path ∈ layout.managed) (entry : Option Entry) :
    Underway json policy initial plan journal bytes
      { state with disk := state.disk.set path entry } where
  frame := by
    intro other outside differs
    have elsewhere : other ≠ path := by
      rintro rfl
      exact outside member
    exact (Disk.set_other _ _ elsewhere).trans (underway.frame other outside differs)
  begun := underway.begun
  last := underway.last
  holds := underway.holds
  covered := .inl ((Disk.set_other _ _ (ne_pending member).symm).trans stored)

theorem pathOf_planned {file : SingleVmPlannedFile}
    (member : file ∈ plan.toValidatedHostPlan.files) : file.path ∈ layout.managed := by
  refine List.mem_append_left _ ?_
  rw [← plan.placed]
  exact List.mem_map.mpr ⟨file, member, rfl⟩

theorem statePath_managed (layout : Layout) :
    statePath layout.root layout.name ∈ layout.managed :=
  List.mem_append_right _ (List.mem_singleton.mpr rfl)

theorem safe_writeFiles (underway : Underway json policy initial plan journal bytes state)
    (stored : state.disk layout.pending = some (.file bytes tempMode)) :
    (plan.files.forM fun file => write file.path file.contents.toUTF8.data.toList).run.Safe (exec plan)
      among (Underway json policy initial plan journal bytes) (Ends False fun _ after =>
        after.disk layout.pending = some (.file bytes tempMode) ∧
        ∃ base, after.disk = place (planned plan.toValidatedHostPlan) base) state := by
  refine Program.Safe.forM (fun rest after =>
    Underway json policy initial plan journal bytes after ∧
    after.disk layout.pending = some (.file bytes tempMode) ∧
    ∃ done, plan.files = done ++ rest ∧ after.disk = place (done.map fun file =>
      (file.path, file.contents.toUTF8.data.toList)) state.disk) plan.files
    ⟨underway, stored, [], rfl, rfl⟩ ?_ (fun _ _ reached => reached.1) ?_
  · rintro file rest after held ⟨underway, stored, done, split, placed⟩
    have member : file ∈ plan.files := by
      rw [split]
      exact List.mem_append_right _ List.mem_cons_self
    have managed := pathOf_planned member
    have written := underway.set stored managed
      (some (.file file.contents.toUTF8.data.toList tempMode))
    refine (safe_write _ False.elim (.inl (ne_pending managed)) held written).mono
      (fun _ held => held) ?_
    intro outcome final _ ended
    cases outcome with
    | error e => exact .error e id
    | ok value =>
        cases ended.1 value rfl
        refine ⟨written, (Disk.set_other _ _ (ne_pending managed).symm).trans stored,
          done ++ [file], by rw [split, List.append_assoc]; rfl, ?_⟩
        rw [List.map_append, place_append, ← placed]
        rfl
  · rintro after _ ⟨_, stored, done, split, placed⟩
    rw [List.append_nil] at split
    exact .ok ⟨stored, state.disk, by rw [placed, planned, split]⟩

theorem Installs.of_place {installed : Bytes} {disk : Disk} (base : Disk)
    (encoded : json.installed.toValue (installedOf plan.toValidatedHostPlan policy) = .ok installed)
    (placed : disk = place (planned plan.toValidatedHostPlan ++
      [(statePath layout.root layout.name, installed)]) base) :
    Installs json policy plan disk := by
  refine ⟨installed, encoded, ?_⟩
  intro path member
  rw [placed]
  refine place_covers _ _ _ (.inl ?_)
  rw [List.map_append, planned_paths]
  exact member

theorem Underway.conclude (underway : Underway json policy initial plan journal bytes state)
    (installs : Installs json policy plan state.disk) (healthy : state.healthy = true) :
    Underway json policy initial plan journal bytes
      { state with disk := state.disk.set layout.pending none } where
  frame := fun path outside other =>
    (Disk.set_other _ _ other).trans (underway.frame path outside other)
  begun := underway.begun
  last := underway.last
  holds := underway.holds
  covered := by
    obtain ⟨installed, encoded, same⟩ := installs
    exact .inr ⟨Disk.set_self .., ⟨installed, encoded, same.set_pending none⟩, healthy⟩

theorem safe_healthy (underway : Underway json policy initial plan journal bytes state)
    (stored : state.disk layout.pending = some (.file bytes tempMode)) :
    (Program.ask .healthy fun reply => reply.mapError denied : Hosting Unit).run.Safe (exec plan)
      among (Underway json policy initial plan journal bytes) (Ends False fun _ after =>
        after = { state with healthy := true }) state := by
  refine safe_ask underway ?_
  intro turn _
  refine ⟨⟨underway.frame, underway.begun, underway.last, underway.holds, .inl stored⟩, ?_⟩
  refine ⟨?_, False.elim⟩
  intro _ returned
  have passed : turn.fails = none := by
    simp only [access, Turn.verdict] at returned
    cases failed : turn.fails with
    | none => rfl
    | some text =>
        rw [failed] at returned
        cases returned
  change { state with disk := state.disk, healthy := state.healthy || turn.fails.isNone } = _
  rw [passed, Option.isNone_none, Bool.or_true]

theorem safe_applyPlan (underway : Underway json policy initial plan journal bytes state)
    (stored : state.disk layout.pending = some (.file bytes tempMode)) :
    (applyPlan json plan.toValidatedHostPlan policy layout.root).run.Safe (exec plan) among
      (Underway json policy initial plan journal bytes) (fun _ _ => True) state := by
  unfold applyPlan
  rw [plan.named]
  suffices ends : Program.Safe (exec plan) among
      (Underway json policy initial plan journal bytes) (Ends False fun _ _ => True) _ state from
    ends.mono (fun _ held => held) fun _ _ _ _ => trivial
  refine safe_then _ (safe_writeFiles underway stored) ?_
  rintro _ written held ⟨stored, base, placed⟩
  refine safe_then _ (safe_runService "daemon-reload" none False.elim held) ?_
  rintro _ next _ same
  subst next
  refine safe_then _ (safe_runService "enable" _ False.elim held) ?_
  rintro _ next _ same
  subst next
  refine safe_then (fun _ after => after = written)
    (safe_quiet rfl held fun _ _ => ⟨fun _ _ => rfl, False.elim⟩) ?_
  rintro _ next _ same
  subst next
  refine safe_then _ (safe_runService "restart" _ False.elim held) ?_
  rintro _ next _ same
  subst next
  refine safe_then _ (safe_healthy held stored) ?_
  rintro _ next passed same
  subst next
  refine safe_then _ (safe_lift passed) ?_
  rintro installed next _ ⟨same, encoded⟩
  subst next
  have recorded := passed.set stored (statePath_managed layout) (some (.file installed tempMode))
  refine safe_then _ (safe_write installed False.elim
    (.inl (ne_pending (statePath_managed layout))) passed recorded) ?_
  rintro _ next _ same
  subst next
  have installs : Installs json policy plan
      (written.disk.set (statePath layout.root layout.name) (some (.file installed tempMode))) := by
    refine Installs.of_place base (mapError_ok encoded) ?_
    rw [place_append, ← placed]
    rfl
  refine (safe_removeDurable layout.pending False.elim recorded
    (recorded.conclude installs rfl)).mono (fun _ held => held) ?_
  intro _ _ _ _
  exact ⟨fun _ _ => trivial, False.elim⟩

theorem safe_retainJournal (underway : Underway json policy initial plan journal bytes state)
    (short : bytes.length ≤ journalLimit) (decoded : json.journal.fromValue bytes = .ok journal) :
    (retainJournal layout.pending bytes).run.Safe (exec plan) among (Steady json policy initial)
      (Ends False fun _ after => Keeps json layout journal after.disk ∧
        Holds layout journal after.before) state := by
  have steady := underway.steady short decoded
  refine safe_then _ (safe_pathExists layout.pending steady) ?_
  rintro found next _ ⟨same, present⟩
  subst next
  cases found with
  | true =>
      rcases underway.covered with stored | ⟨absent, _⟩
      · exact ⟨steady, .ok ⟨keeps_of_stored short decoded stored, underway.holds⟩⟩
      · rw [absent] at present
        cases present
  | false =>
      have again : Underway json policy initial plan journal bytes { state with
          disk := state.disk.set layout.pending (some (.file bytes tempMode)) } :=
        ⟨fun path outside other =>
            (Disk.set_other _ _ other).trans (underway.frame path outside other),
          underway.begun, underway.last, underway.holds, .inl (Disk.set_self ..)⟩
      refine (safe_write bytes False.elim (.inr underway.begun) steady
        (again.steady short decoded)).mono (fun _ held => held) ?_
      intro outcome after _ ended
      refine ⟨?_, False.elim⟩
      intro value done
      cases ended.1 value done
      exact ⟨keeps_of_stored short decoded (Disk.set_self ..), underway.holds⟩

/-- The failure path: whatever the failed part left is rolled back, or stays
under its journal. -/
theorem safe_rollBack (underway : Underway json policy initial plan journal bytes state)
    (short : bytes.length ≤ journalLimit) (decoded : json.journal.fromValue bytes = .ok journal)
    (e : DeployerError) :
    (rollBack layout.pending bytes journal e).run.Safe (exec plan) among
      (Steady json policy initial) (Ends False fun _ _ => True) state := by
  refine safe_then _ (safe_retainJournal underway short decoded) ?_
  rintro _ retained steady ⟨keeps, holds⟩
  refine safe_then (fun _ after => Moved retained after ∧ Same layout after.disk retained.before)
    ?_ ?_
  · refine Program.Safe.rescue _ (safe_restore holds False.elim fun _ => steady.moved keeps holds)
      (fun _ _ _ ended => ended) ?_
    intro rollback failed held _
    exact ⟨held, .error _ id⟩
  · rintro _ restored held ⟨moved, same⟩
    have own : Holds layout journal restored.before := moved.before ▸ holds
    have back : Same layout restored.disk restored.before := moved.before ▸ same
    refine safe_then _ (safe_removeDurable layout.pending False.elim held
      (.settle held.frame own back)) ?_
    rintro _ _ settled rfl
    exact ⟨settled, .error _ id⟩

theorem safe_writeJournal (steady : Steady json policy initial state)
    (fresh : state.begun = false) (holds : Holds layout journal state.disk)
    (short : bytes.length ≤ journalLimit) (decoded : json.journal.fromValue bytes = .ok journal) :
    (write layout.pending bytes).run.Safe (exec plan) among (Steady json policy initial)
      (Ends False fun _ after => Underway json policy initial plan journal bytes after ∧
        after.disk layout.pending = some (.file bytes tempMode)) state := by
  have begins : Underway json policy initial plan journal bytes
      ⟨state.disk.set layout.pending (some (.file bytes tempMode)), true, state.disk, some plan,
        false⟩ :=
    ⟨fun path outside other => (Disk.set_other _ _ other).trans (steady.frame path outside other),
      rfl, rfl, holds, .inl (Disk.set_self ..)⟩
  refine safe_ask steady ?_
  intro turn _
  cases effective : turn.effective with
  | true =>
      have begun : (exec plan turn state (.atomicWriteBytes layout.pending bytes)).2 =
          ⟨state.disk.set layout.pending (some (.file bytes tempMode)), true, state.disk, some plan,
            false⟩ := by
        simp only [exec, HostState.after, access, effective, fresh, and_self, if_true]
      rw [begun]
      refine ⟨begins.steady short decoded, ?_, False.elim⟩
      intro _ _
      exact ⟨begins, Disk.set_self ..⟩
  | false =>
      have unchanged : (exec plan turn state (.atomicWriteBytes layout.pending bytes)).2 = state := by
        simp only [exec, HostState.after, access, effective, Bool.false_eq_true, false_and,
          and_false, if_false]
      rw [unchanged]
      refine ⟨steady, ?_, False.elim⟩
      intro value returned
      cases replied : turn.reply () with
      | ok _ =>
          rw [(effective_of_reply replied).1] at effective
          cases effective
      | error e =>
          simp only [access, replied] at returned
          cases returned

end Body

theorem only_then {α β : Type} {program : Hosting α} {f : α → Hosting β}
    (first : program.run.Only fun call => quiet call = true)
    (rest : ∀ a, (f a).run.Only fun call => quiet call = true) :
    (program >>= f).run.Only fun call => quiet call = true :=
  Program.Only.andThen first rest

theorem only_ask {α : Type} {call : HostCall} {sort : call.Reply → Except DeployerError α}
    (harmless : quiet call = true) :
    (Program.ask call sort : Hosting α).run.Only fun call => quiet call = true :=
  ⟨harmless, fun _ => trivial⟩

theorem only_plannedUnitExists (files : List SingleVmPlannedFile) :
    (plannedUnitExists files).run.Only fun call => quiet call = true := by
  induction files with
  | nil => exact trivial
  | cons file rest ih =>
      unfold plannedUnitExists
      split
      · refine only_then (only_ask rfl) fun found => ?_
        split
        · exact trivial
        · exact ih
      · exact ih

theorem only_validateStorageContract (state : PathBuf) (recoveryPending : Bool) :
    (validateStorageContract json plan.toValidatedHostPlan policy state recoveryPending).run.Only
      fun call => quiet call = true := by
  refine only_then (only_ask rfl) fun found => ?_
  split
  · refine only_then (only_then (only_ask rfl) fun bytes => ?_) fun bytes => ?_
    · split <;> exact trivial
    · refine only_then trivial fun installed => ?_
      split <;> exact trivial
  · split
    · exact trivial
    · refine only_then (only_plannedUnitExists _) fun found => ?_
      split <;> exact trivial

theorem safe_beginTransaction (steady : Steady json policy initial state)
    (fresh : state.begun = false) (absent : state.disk layout.pending = none) (recovered : Bool) :
    (beginTransaction json plan.toValidatedHostPlan policy layout.root recovered).run.Safe
      (exec plan) among (Steady json policy initial) (Ends False fun _ _ => True) state := by
  have pending : journalPath layout.root plan.serviceUnitName = layout.pending := by
    rw [plan.named]
    rfl
  unfold beginTransaction
  dsimp only
  rw [pending]
  refine safe_then (fun _ after => after = state)
    ((safe_only (only_validateStorageContract _ _) steady).mono (fun _ held => held)
      fun _ _ _ same => ⟨fun _ _ => same, False.elim⟩) ?_
  rintro _ next _ same
  subst next
  refine safe_then _ (safe_saveJournal (steady.standing.moderate absent) steady) ?_
  rintro journal next _ ⟨same, holds⟩
  subst next
  refine safe_then _ (safe_lift steady) ?_
  rintro bytes next _ ⟨same, encoded⟩
  subst next
  have decoded := json.journal.fromValue_toValue journal bytes (mapError_ok encoded)
  split
  · exact ⟨steady, .error _ id⟩
  · rename_i within
    have short : bytes.length ≤ journalLimit := Nat.le_of_not_gt within
    refine safe_then _ (safe_writeJournal steady fresh holds short decoded) ?_
    rintro _ begun _ ⟨underway, stored⟩
    have applied : (applyPlan json plan.toValidatedHostPlan policy layout.root).run.Safe (exec plan)
        among (Steady json policy initial)
        (fun _ after => Underway json policy initial plan journal bytes after) begun :=
      (safe_applyPlan underway stored).mono (fun _ held => held.steady short decoded)
        fun _ _ held _ => held
    refine Program.Safe.rescue (fun _ after =>
      Underway json policy initial plan journal bytes after) ?_ ?_ ?_
    · exact Program.Safe.andThen _ applied (fun _ _ _ held => held) fun _ _ held ended =>
        ⟨held, ended⟩
    · exact fun _ _ _ _ => .ok trivial
    · exact fun e _ _ held => safe_rollBack held short decoded e

theorem Steady.enter (steady : Steady json policy initial state) :
    Steady json policy initial state.enter where
  frame := steady.frame
  standing := by
    cases steady.standing with
    | settled absent same modes => exact .settled absent same modes
    | installed absent last installs healthy => exact .installed absent last installs healthy
    | pending keeps holds => exact .pending keeps holds

theorem safe_executeTransaction (steady : Steady json policy initial state)
    (fresh : state.begun = false) :
    (executeTransaction json plan.toValidatedHostPlan policy layout.root).run.Safe (exec plan) among
      (Steady json policy initial) (Ends False fun _ _ => True) state := by
  refine safe_then _ (safe_recoverPending False.elim steady) ?_
  intro recovered after held left
  exact safe_beginTransaction held (left.begun.trans fresh) left.absent recovered

structure StartDisk (layout : Layout) where
  disk : Disk
  idle : disk layout.pending = none
  modes : Moderate layout disk

def HostState.fresh (start : StartDisk layout) : HostState layout :=
  ⟨start.disk, false, start.disk, none, false⟩

theorem steady_run (start : StartDisk layout) (attempts : List (Attempt layout)) :
    Steady json policy start.disk
      ((transactions json policy layout).run (.fresh start) attempts) := by
  refine (transactions json policy layout).run_invariant _ ?_ _ attempts
    ((transactions json policy layout).admits_of_allowed (fun _ _ => trivial) _ _) ?_
  · intro state attempt _ steady
    have safe : (executeTransaction json attempt.plan.toValidatedHostPlan policy
        layout.root).run.Safe (exec attempt.plan) (fun _ => True)
        (Steady json policy start.disk) (Ends False fun _ _ => True) state.enter :=
      safe_executeTransaction steady.enter rfl
    exact safe.cut attempt.turns fun _ _ => trivial
  · exact ⟨fun _ _ _ => rfl, .settled start.idle (fun _ _ => rfl) start.modes⟩

/-- Crash safety. However many runs there were, on whatever plans for the same
paths, each cut off anywhere and any of its calls failing: without a pending
journal the managed files are the contents from before the last transaction, or
its plan with the installed record, found healthy; where they are neither, the
pending journal holds the contents from before; a run in which nothing fails up to
the end of the recovery has brought those back before it begins anew; and no path
but the managed files and the journal has changed. -/
theorem transaction_crash_safe (json : HostJson) (policy : HostDeploymentPolicy) (layout : Layout)
    (start : StartDisk layout) (attempts : List (Attempt layout)) :
    let state := (transactions json policy layout).run (.fresh start) attempts
    (state.disk layout.pending = none → Same layout state.disk state.before ∨
      ∃ plan, state.last = some plan ∧ Installs json policy plan state.disk ∧
        state.healthy = true) ∧
    (¬ Same layout state.disk state.before →
      (¬ ∃ plan, state.last = some plan ∧ Installs json policy plan state.disk) →
      ∃ journal, Keeps json layout journal state.disk ∧ Holds layout journal state.before) ∧
    (state.disk layout.pending ≠ none →
      ∀ (plan : PlanOver layout) (inputs : Nat → Turn), (∀ n, (inputs n).fault = none) →
      ∃ n, let after := (executeTransaction json plan.toValidatedHostPlan policy
            layout.root).run.cut (exec plan) state.enter ((List.range n).map inputs)
        after.begun = false ∧ after.disk layout.pending = none ∧
          Same layout after.disk state.before) ∧
    ∀ path, path ∉ layout.managed → path ≠ layout.pending →
      state.disk path = start.disk path := by
  intro state
  have steady : Steady json policy start.disk state := steady_run start attempts
  refine ⟨?_, ?_, ?_, steady.frame⟩
  · intro absent
    cases steady.standing with
    | settled _ same _ => exact .inl same
    | installed _ last installs healthy => exact .inr ⟨_, last, installs, healthy⟩
    | pending keeps holds =>
        obtain ⟨bytes, mode, stored, _⟩ := keeps.stored
        rw [absent] at stored
        cases stored
  · intro changed partial_
    cases steady.standing with
    | settled _ same _ => exact absurd same changed
    | installed _ last installs _ => exact absurd ⟨_, last, installs⟩ partial_
    | pending keeps holds => exact ⟨_, keeps, holds⟩
  · intro present plan inputs clean
    have safe : (recoverPending json plan.toValidatedHostPlan layout.root).run.Safe (exec plan)
        (fun turn => turn.fault = none) (Steady json policy start.disk)
        (Ends True (Recovered state.enter)) state.enter :=
      safe_recoverPending (fun _ _ considered => considered) steady.enter
    obtain ⟨left, sure⟩ := safe.finish inputs clean
    obtain ⟨recovered, returned⟩ := sure trivial
    have reached := left recovered returned
    obtain ⟨n, passed⟩ := Program.cut_bind (exec plan)
      (recoverPending json plan.toValidatedHostPlan layout.root).run
      (ExceptT.bindCont (beginTransaction json plan.toValidatedHostPlan policy layout.root))
      state.enter inputs
    refine ⟨n, ?_⟩
    have through : (executeTransaction json plan.toValidatedHostPlan policy layout.root).run.cut
        (exec plan) state.enter ((List.range n).map inputs) = _ := passed
    rw [through]
    exact ⟨reached.begun, reached.absent, (reached.restored present).2⟩

/-- The paths of a rendered plan, and the directory of the supervisor. -/
def Layout.rendered (service : String) : Layout where
  root := "/var/lib/greentic-deployer"
  name := service ++ ".service"
  paths := ["/etc/systemd/system/" ++ (service ++ ".service"),
    "/etc/greentic/" ++ (service ++ ".env")]
  apart := by
    intro member
    simp only [journalPath, List.mem_cons, List.not_mem_nil, or_false] at member
    rcases member with same | same
    · have lists := congrArg String.toList same
      simp [String.toList_append] at lists
    · have lists := congrArg String.toList same
      simp [String.toList_append] at lists

def oneRecord {α : Type} [DecidableEq α] (known : α) : JsonCodec Bytes α where
  toValue := fun a => if a = known then .ok [1] else .error "unknown"
  fromValue := fun bytes => if bytes = [1] then .ok known else .error "unknown"
  fromValue_toValue := by
    intro a v encoded
    split at encoded
    · rename_i same
      cases encoded
      rw [same]
      rfl
    · cases encoded

def demoPlan : PlanOver (.rendered "web") where
  serviceUnitName := "web.service"
  files := [⟨"/etc/systemd/system/web.service", .systemdUnit, "new"⟩,
    ⟨"/etc/greentic/web.env", .environmentFile, "new"⟩]
  imageId := "image"
  named := by decide
  placed := by decide

/-- The journal of a host without the service. -/
def demoJournal : Journal where
  schemaVersion := .v1
  service := "web.service"
  files := (Layout.rendered "web").managed.map fun path => ⟨path, none, 0o600⟩
  enabled := true
  active := true

def demoHostJson : HostJson := ⟨oneRecord demoJournal, oneRecord ⟨.v1, "contract", "image"⟩⟩

def demoStart : StartDisk (.rendered "web") where
  disk := fun _ => none
  idle := rfl
  modes := by
    intro path member bytes mode found
    cases found

/-- Runs of the plan in which nothing fails, each cut off after some calls. -/
def demoRuns (calls : List Nat) : HostState (.rendered "web") :=
  (transactions demoHostJson ⟨"contract"⟩ (.rendered "web")).run (.fresh demoStart)
    (calls.map fun count => ⟨demoPlan, List.replicate count ⟨none, true⟩⟩)

example : (demoRuns [40]).healthy = true ∧ (demoRuns [40]).disk "/etc/greentic/web.env" =
    some (.file "new".toUTF8.data.toList tempMode) := by
  decide

example : ((demoRuns [12]).disk (Layout.rendered "web").pending).isSome = true ∧
    (demoRuns [12, 14]).disk (Layout.rendered "web").pending = none ∧
    (demoRuns [12, 14]).disk "/etc/greentic/web.env" = none := by
  decide

end GreenticDeployer.Host
