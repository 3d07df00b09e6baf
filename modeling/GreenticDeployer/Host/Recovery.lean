import GreenticDeployer.Host.Transaction

/-!
# Recovery of an interrupted transaction

Runs of the transaction on one set of paths, each cut off at any call, with what
the last transaction began from recorded beside the disk. As long as the journal
is there it holds those contents, so that a recovery can be cut off and taken up
again any number of times.
-/

set_option maxHeartbeats 200000

namespace GreenticDeployer.Host

open Spec Engine Lib

/-- The paths of one service. The journal is none of the files it protects. -/
structure Layout where
  root : PathBuf
  name : String
  paths : List PathBuf
  apart : journalPath root name ∉ paths

def Layout.pending (layout : Layout) : PathBuf := journalPath layout.root layout.name

/-- The managed files: those of a plan and the installed record. -/
def Layout.managed (layout : Layout) : List PathBuf :=
  layout.paths ++ [statePath layout.root layout.name]

structure PlanOver (layout : Layout) extends ValidatedHostPlan where
  named : serviceUnitName = layout.name
  placed : files.map (·.path) = layout.paths

/-- The disk, and what is remembered of the last transaction. -/
structure HostState (layout : Layout) where
  disk : Disk
  /-- Whether the run in progress has begun its transaction. -/
  begun : Bool
  /-- The disk when the last transaction began. -/
  before : Disk
  /-- The plan of the last transaction. -/
  last : Option (PlanOver layout)
  /-- Whether its health check passed. -/
  healthy : Bool

variable {layout : Layout}

/-- A run begins its transaction with its first journal. -/
def HostState.after (plan : PlanOver layout) (turn : Turn) (state : HostState layout) (disk : Disk) :
    HostCall → HostState layout
  | .atomicWriteBytes path _ =>
    if path = layout.pending ∧ turn.effective = true ∧ state.begun = false then
      ⟨disk, true, state.disk, some plan, false⟩
    else { state with disk := disk }
  | .healthy => { state with disk := disk, healthy := state.healthy || turn.fails.isNone }
  | _ => { state with disk := disk }

def exec (plan : PlanOver layout) (turn : Turn) (state : HostState layout) (call : HostCall) :
    call.Reply × HostState layout :=
  let outcome := access turn state.disk call
  (outcome.1, state.after plan turn outcome.2 call)

/-- A run of the transaction, cut off after some of its calls. -/
structure Attempt (layout : Layout) where
  plan : PlanOver layout
  turns : List Turn

def HostState.enter (state : HostState layout) : HostState layout := { state with begun := false }

variable (json : HostJson) (policy : HostDeploymentPolicy)

def transactions (layout : Layout) : System (HostState layout) (Attempt layout) where
  step := fun state attempt =>
    (executeTransaction json attempt.plan.toValidatedHostPlan policy layout.root).run.cut
      (exec attempt.plan) state.enter attempt.turns
  allowed := fun _ _ => True

/-- Two disks agree on the managed files. -/
def Same (layout : Layout) (left right : Disk) : Prop :=
  ∀ path ∈ layout.managed, left path = right path

def placeFile (disk : Disk) (file : PathBuf × Bytes) : Disk :=
  disk.set file.1 (some (.file file.2 tempMode))

def place (files : List (PathBuf × Bytes)) (disk : Disk) : Disk := files.foldl placeFile disk

def planned (plan : ValidatedHostPlan) : List (PathBuf × Bytes) :=
  plan.files.map fun file => (file.path, file.contents.toUTF8.data.toList)

def Installs (plan : PlanOver layout) (disk : Disk) : Prop :=
  ∃ installed, json.installed.toValue (installedOf plan.toValidatedHostPlan policy) = .ok installed ∧
    Same layout disk (place (planned plan.toValidatedHostPlan ++
      [(statePath layout.root layout.name, installed)]) fun _ => none)

/-- No managed file has a mode beyond 0755. -/
def Moderate (layout : Layout) (disk : Disk) : Prop :=
  ∀ path ∈ layout.managed, ∀ bytes mode, disk path = some (.file bytes mode) →
    mode &&& ~~~0o755 = 0

def SavedFile.entry (saved : SavedFile) : Option Entry :=
  saved.bytes.map fun bytes => .file bytes saved.mode

structure Holds (layout : Layout) (journal : Journal) (disk : Disk) : Prop where
  service : journal.service = layout.name
  paths : journal.files.map (·.path) = layout.managed
  admissible : ∀ saved ∈ journal.files, saved.admissible = true
  contents : ∀ saved ∈ journal.files, disk saved.path = saved.entry

structure Keeps (layout : Layout) (journal : Journal) (disk : Disk) : Prop where
  stored : ∃ bytes mode, disk layout.pending = some (.file bytes mode) ∧
    bytes.length ≤ journalLimit ∧ json.journal.fromValue bytes = .ok journal

inductive Standing (state : HostState layout) : Prop
  | settled (absent : state.disk layout.pending = none)
      (same : Same layout state.disk state.before) (modes : Moderate layout state.before)
  | installed (absent : state.disk layout.pending = none) {plan : PlanOver layout}
      (last : state.last = some plan) (installs : Installs json policy plan state.disk)
      (healthy : state.healthy = true)
  | pending {journal : Journal} (keeps : Keeps json layout journal state.disk)
      (holds : Holds layout journal state.before)

/-- The invariant of every run: only managed files and the journal change. -/
structure Steady (initial : Disk) (state : HostState layout) : Prop where
  frame : ∀ path, path ∉ layout.managed → path ≠ layout.pending →
    state.disk path = initial path
  standing : Standing json policy state

theorem statePath_ne_journalPath (root : PathBuf) (name : String) :
    statePath root name ≠ journalPath root name := by
  intro same
  have lists := congrArg String.toList same
  simp [statePath, journalPath, String.toList_append] at lists

theorem Layout.pending_not_managed (layout : Layout) : layout.pending ∉ layout.managed := by
  intro member
  rcases List.mem_append.mp member with path | state
  · exact layout.apart path
  · exact statePath_ne_journalPath _ _ (List.mem_singleton.mp state).symm

theorem ne_pending {path : PathBuf} (member : path ∈ layout.managed) : path ≠ layout.pending := by
  rintro rfl
  exact layout.pending_not_managed member

@[simp] theorem Disk.set_self (disk : Disk) (path : PathBuf) (entry : Option Entry) :
    disk.set path entry path = entry := Function.update_self ..

theorem Disk.set_other (disk : Disk) {path other : PathBuf} (entry : Option Entry)
    (differs : other ≠ path) : disk.set path entry other = disk other :=
  Function.update_of_ne differs ..

@[simp] theorem Disk.set_set (disk : Disk) (path : PathBuf) (first second : Option Entry) :
    (disk.set path first).set path second = disk.set path second := Function.update_idem ..

theorem Disk.set_same {disk : Disk} {path : PathBuf} {entry : Option Entry}
    (already : disk path = entry) : disk.set path entry = disk := by
  rw [← already]
  exact Function.update_eq_self ..

theorem Same.set_pending {left right : Disk} (same : Same layout left right)
    (entry : Option Entry) : Same layout (left.set layout.pending entry) right := by
  intro path member
  rw [Disk.set_other _ _ (ne_pending member)]
  exact same path member

theorem place_append (first second : List (PathBuf × Bytes)) (disk : Disk) :
    place (first ++ second) disk = place second (place first disk) := List.foldl_append ..

/-- A file that is written has the last contents written, whatever it had. -/
theorem place_covers (files : List (PathBuf × Bytes)) {path : PathBuf} (left right : Disk)
    (agree : path ∈ files.map Prod.fst ∨ left path = right path) :
    place files left path = place files right path := by
  induction files generalizing left right with
  | nil => exact agree.resolve_left List.not_mem_nil
  | cons file rest ih =>
      refine ih _ _ ?_
      by_cases same : path = file.1
      · subst same
        exact .inr (by rw [placeFile, placeFile, Disk.set_self, Disk.set_self])
      · rcases agree with written | agree
        · exact .inl ((List.mem_cons.mp written).resolve_left same)
        · refine .inr ?_
          rw [placeFile, placeFile, Disk.set_other _ _ same, Disk.set_other _ _ same]
          exact agree

theorem place_mode (files : List (PathBuf × Bytes)) {path : PathBuf} {bytes : Bytes} {mode : Mode}
    {disk : Disk} (modes : ∀ bytes mode, disk path = some (.file bytes mode) → mode = tempMode)
    (found : place files disk path = some (.file bytes mode)) : mode = tempMode := by
  induction files generalizing disk with
  | nil => exact modes bytes mode found
  | cons file rest ih =>
      refine ih ?_ found
      intro bytes mode written
      by_cases same : path = file.1
      · subst same
        rw [placeFile, Disk.set_self] at written
        cases written
        rfl
      · rw [placeFile, Disk.set_other _ _ same] at written
        exact modes bytes mode written

theorem planned_paths (plan : PlanOver layout) :
    (planned plan.toValidatedHostPlan).map Prod.fst = layout.paths := by
  rw [planned, List.map_map, ← plan.placed]
  rfl

theorem expectedPaths_eq (plan : PlanOver layout) :
    expectedPaths plan.toValidatedHostPlan layout.root = layout.managed := by
  rw [expectedPaths, plan.placed, plan.named]
  rfl

/-- Where no journal is pending, the modes are the previous ones or those of new
files. -/
theorem Standing.moderate {json : HostJson} {policy : HostDeploymentPolicy}
    {state : HostState layout} (standing : Standing json policy state)
    (absent : state.disk layout.pending = none) : Moderate layout state.disk := by
  intro path member bytes mode found
  cases standing with
  | settled _ same modes =>
      rw [same path member] at found
      exact modes path member bytes mode found
  | installed _ last installs healthy =>
      obtain ⟨installed, _, same⟩ := installs
      rw [same path member] at found
      have temp := place_mode _ (fun _ _ wrong => by cases wrong) found
      rw [temp]
      decide
  | pending keeps holds =>
      obtain ⟨bytes, mode, stored, _⟩ := keeps.stored
      rw [absent] at stored
      cases stored

def Clean (among : Turn → Prop) : Prop := ∀ turn, among turn → turn.fault = none

theorem effective_of_reply {α : Type} {turn : Turn} {value result : α}
    (replied : turn.reply value = .ok result) : turn.effective = true ∧ value = result := by
  unfold Turn.reply Turn.fails at replied
  unfold Turn.effective
  cases fault : turn.fault with
  | none =>
      rw [fault] at replied
      cases replied
      exact ⟨rfl, rfl⟩
  | some fault' => cases fault' <;> rw [fault] at replied <;> cases replied

theorem reply_of_clean {α : Type} {turn : Turn} (clean : turn.fault = none) (value : α) :
    turn.reply value = .ok value := by
  simp only [Turn.reply, Turn.fails, clean]

theorem verdict_of_clean {α : Type} {turn : Turn} (clean : turn.fault = none) (value : α) :
    turn.verdict value = .ok value := by
  simp only [Turn.verdict, Turn.fails, clean]

/-- The calls that leave the disk as it is, and the record beside it. -/
def quiet : HostCall → Bool
  | .atomicWriteBytes _ _ => false
  | .setPermissions _ _ => false
  | .removeFile _ => false
  | .healthy => false
  | _ => true

section Calls

variable {plan : PlanOver layout} {among : Turn → Prop} {inv : HostState layout → Prop}
variable {state : HostState layout} {turn : Turn}

theorem exec_quiet {call : HostCall} (harmless : quiet call = true) :
    (exec plan turn state call).2 = state := by
  cases call with
  | atomicWriteBytes => cases harmless
  | setPermissions => cases harmless
  | removeFile => cases harmless
  | healthy => cases harmless
  | _ => rfl

theorem exec_write {path : PathBuf} (bytes : Bytes)
    (kept : path ≠ layout.pending ∨ state.begun = true) :
    (exec plan turn state (.atomicWriteBytes path bytes)).2 = { state with
      disk := if turn.effective then state.disk.set path (some (.file bytes tempMode))
        else state.disk } := by
  refine if_neg ?_
  rintro ⟨isPending, _, fresh⟩
  rcases kept with other | begun
  · exact other isPending
  · rw [fresh] at begun
    cases begun

theorem safe_ask {α : Type} {call : HostCall} {sort : call.Reply → Except DeployerError α}
    {post : Except DeployerError α → HostState layout → Prop} (held : inv state)
    (turns : ∀ turn, among turn → inv (exec plan turn state call).2 ∧
      post (sort (access turn state.disk call).1) (exec plan turn state call).2) :
    (Program.ask call sort : Hosting α).run.Safe (exec plan) among inv post state :=
  ⟨held, turns⟩

theorem safe_quiet {α : Type} {call : HostCall} {sort : call.Reply → Except DeployerError α}
    {post : Except DeployerError α → HostState layout → Prop} (harmless : quiet call = true)
    (held : inv state)
    (answers : ∀ turn, among turn → post (sort (access turn state.disk call).1) state) :
    (Program.ask call sort : Hosting α).run.Safe (exec plan) among inv post state := by
  refine safe_ask held ?_
  intro turn considered
  rw [exec_quiet harmless]
  exact ⟨held, answers turn considered⟩

theorem safe_only {α : Type} {program : Program HostCall HostCall.Reply α}
    (only : program.Only fun call => quiet call = true) (held : inv state) :
    program.Safe (exec plan) among inv (fun _ after => after = state) state := by
  induction program with
  | done result => exact ⟨held, rfl⟩
  | call call next ih =>
      refine ⟨held, ?_⟩
      intro turn _
      rw [exec_quiet only.1]
      exact ih _ (only.2 _)

def Ends {α : Type} (sure : Prop) (goal : α → HostState layout → Prop)
    (outcome : Except DeployerError α) (after : HostState layout) : Prop :=
  (∀ value, outcome = .ok value → goal value after) ∧ (sure → ∃ value, outcome = .ok value)

theorem Ends.ok {α : Type} {sure : Prop} {goal : α → HostState layout → Prop} {value : α}
    (reached : goal value state) : Ends sure goal (.ok value) state :=
  ⟨fun _ same => Except.ok.inj same ▸ reached, fun _ => ⟨value, rfl⟩⟩

theorem Ends.error {α : Type} {sure : Prop} {goal : α → HostState layout → Prop}
    (e : DeployerError) (never : ¬ sure) : Ends sure goal (.error e) state :=
  ⟨fun _ wrong => (by cases wrong), fun certain => absurd certain never⟩

theorem safe_then {α β : Type} {sure : Prop} (goal : α → HostState layout → Prop)
    {goal' : β → HostState layout → Prop} {program : Hosting α} {f : α → Hosting β}
    (first : program.run.Safe (exec plan) among inv (Ends sure goal) state)
    (rest : ∀ value state, inv state → goal value state →
      (f value).run.Safe (exec plan) among inv (Ends sure goal') state) :
    (program >>= f).run.Safe (exec plan) among inv (Ends sure goal') state := by
  refine Program.Safe.andThen _ first ?_ ?_
  · intro e state _ failed
    refine .error e fun certain => ?_
    obtain ⟨_, wrong⟩ := failed.2 certain
    cases wrong
  · intro value state held reached
    exact rest value state held (reached.1 value rfl)

theorem safe_runService {sure : Prop} (action : String) (service : Option String)
    (clean : sure → Clean among) (held : inv state) :
    (runService action service).run.Safe (exec plan) among inv
      (Ends sure fun _ after => after = state) state := by
  refine safe_quiet rfl held ?_
  intro turn considered
  refine ⟨fun _ _ => rfl, fun certain => ⟨⟨⟩, ?_⟩⟩
  dsimp only [access]
  rw [verdict_of_clean (clean certain turn considered)]
  rfl

theorem safe_runServiceIf {sure : Prop} (needed : Bool) (action : String)
    (service : Option String) (clean : sure → Clean among) (held : inv state) :
    (runServiceIf needed action service).run.Safe (exec plan) among inv
      (Ends sure fun _ after => after = state) state := by
  unfold runServiceIf
  split
  · exact safe_runService action service clean held
  · exact ⟨held, .ok rfl⟩

theorem safe_pathExists {sure : Prop} (path : PathBuf) (held : inv state) :
    (pathExists path).run.Safe (exec plan) among inv
      (Ends sure fun found after => after = state ∧ found = (state.disk path).isSome) state :=
  safe_quiet rfl held fun _ _ => .ok ⟨rfl, rfl⟩

theorem safe_unitExists {sure : Prop} (files : List SavedFile) (held : inv state) :
    (unitExists files).run.Safe (exec plan) among inv
      (Ends sure fun _ after => after = state) state := by
  induction files with
  | nil => exact ⟨held, .ok rfl⟩
  | cons saved rest ih =>
      unfold unitExists
      split
      · refine safe_then _ (safe_pathExists saved.path held) ?_
        rintro found _ _ ⟨rfl, _⟩
        cases found with
        | true => exact ⟨held, .ok rfl⟩
        | false => exact ih
      · exact ih

theorem safe_write {sure : Prop} {path : PathBuf} (bytes : Bytes) (clean : sure → Clean among)
    (kept : path ≠ layout.pending ∨ state.begun = true) (held : inv state)
    (written : inv { state with disk := state.disk.set path (some (.file bytes tempMode)) }) :
    (write path bytes).run.Safe (exec plan) among inv (Ends sure fun _ after =>
      after = { state with disk := state.disk.set path (some (.file bytes tempMode)) }) state := by
  refine safe_ask held ?_
  intro turn considered
  rw [exec_write bytes kept]
  dsimp only [access]
  constructor
  · split
    · exact written
    · exact held
  · cases replied : turn.reply () with
    | ok _ =>
        rw [if_pos (effective_of_reply replied).1]
        exact .ok rfl
    | error e =>
        refine .error _ fun certain => ?_
        rw [reply_of_clean (clean certain turn considered)] at replied
        cases replied

theorem safe_removeDurable {sure : Prop} (path : PathBuf) (clean : sure → Clean among)
    (held : inv state) (removed : inv { state with disk := state.disk.set path none }) :
    (removeDurable path).run.Safe (exec plan) among inv (Ends sure fun _ after =>
      after = { state with disk := state.disk.set path none }) state := by
  refine safe_then (fun _ after =>
    after = { state with disk := state.disk.set path none }) ?_ ?_
  · refine safe_ask held ?_
    intro turn considered
    change inv { state with disk := (access turn state.disk (.removeFile path)).2 } ∧
      Ends _ _ _ { state with disk := (access turn state.disk (.removeFile path)).2 }
    dsimp only [access]
    cases present : state.disk path with
    | none => exact ⟨held, .ok (by rw [Disk.set_same present])⟩
    | some entry =>
        dsimp only
        constructor
        · split
          · exact removed
          · exact held
        · cases replied : turn.reply () with
          | ok _ =>
              rw [if_pos (effective_of_reply replied).1]
              exact .ok rfl
          | error e =>
              have unsure : ¬ sure := by
                intro certain
                rw [reply_of_clean (clean certain turn considered)] at replied
                cases replied
              cases e with
              | notFound =>
                  unfold Turn.reply at replied
                  split at replied <;> cases replied
              | other text => exact .error _ unsure
  · rintro flag _ held' rfl
    split
    · refine safe_quiet rfl held' ?_
      intro turn considered
      refine ⟨fun _ _ => rfl, fun certain => ⟨⟨⟩, ?_⟩⟩
      dsimp only [access]
      rw [reply_of_clean (clean certain turn considered)]
      rfl
    · exact ⟨held', .ok rfl⟩

theorem safe_restoreFile {sure : Prop} (saved : SavedFile) (clean : sure → Clean among)
    (kept : saved.path ≠ layout.pending) (held : inv state)
    (written : ∀ entry, inv { state with disk := state.disk.set saved.path entry }) :
    (restoreFile saved).run.Safe (exec plan) among inv (Ends sure fun _ after =>
      after = { state with disk := state.disk.set saved.path saved.entry }) state := by
  unfold restoreFile SavedFile.entry
  cases saved.bytes with
  | none => exact safe_removeDurable saved.path clean held (written none)
  | some bytes =>
      refine safe_then _ (safe_write bytes clean (.inl kept) held (written _)) ?_
      rintro _ _ held' rfl
      refine safe_then (fun _ after => after = { state with
        disk := state.disk.set saved.path (some (.file bytes saved.mode)) }) ?_ ?_
      · refine safe_ask held' ?_
        intro turn considered
        change inv { state with disk := (access turn (state.disk.set saved.path _)
          (.setPermissions saved.path saved.mode)).2 } ∧ Ends _ _ _ { state with
            disk := (access turn (state.disk.set saved.path _)
              (.setPermissions saved.path saved.mode)).2 }
        simp only [access, Disk.set_self, Disk.set_set]
        constructor
        · split
          · exact written _
          · exact held'
        · cases replied : turn.reply () with
          | ok _ =>
              rw [if_pos (effective_of_reply replied).1]
              exact .ok rfl
          | error e =>
              refine .error _ fun certain => ?_
              rw [reply_of_clean (clean certain turn considered)] at replied
              cases replied
      · rintro _ _ held'' rfl
        refine safe_quiet rfl held'' ?_
        intro turn considered
        refine ⟨fun _ _ => rfl, fun certain => ⟨⟨⟩, ?_⟩⟩
        simp only [access, Disk.set_self, Option.isSome_some]
        rw [reply_of_clean (clean certain turn considered)]
        rfl

/-- A state with other managed files and all else unchanged. -/
def Moved (state after : HostState layout) : Prop :=
  after = { state with disk := after.disk } ∧
    ∀ path, path ∉ layout.managed → after.disk path = state.disk path

theorem Moved.refl (state : HostState layout) : Moved state state := ⟨rfl, fun _ _ => rfl⟩

theorem Moved.set {after : HostState layout} {path : PathBuf} (moved : Moved state after)
    (member : path ∈ layout.managed) (entry : Option Entry) :
    Moved state { after with disk := after.disk.set path entry } := by
  refine ⟨by rw [moved.1], ?_⟩
  intro other outside
  have differs : other ≠ path := by
    rintro rfl
    exact outside member
  exact (Disk.set_other _ _ differs).trans (moved.2 other outside)

theorem safe_restoreFiles {sure : Prop} {journal : Journal} {before : Disk}
    (holds : Holds layout journal before) (clean : sure → Clean among)
    (moves : ∀ after, Moved state after → inv after) {start : HostState layout}
    (moved : Moved state start) :
    (journal.files.forM restoreFile).run.Safe (exec plan) among inv
      (Ends sure fun _ after => Moved state after ∧ Same layout after.disk before) start := by
  refine Program.Safe.forM (fun rest after => Moved state after ∧ ∃ done,
    journal.files = done ++ rest ∧ ∀ saved ∈ done, after.disk saved.path = saved.entry)
    journal.files ⟨moved, [], rfl, by simp⟩ ?_ (fun _ after reached => moves after reached.1) ?_
  · rintro saved rest after held ⟨moved, done, split, restored⟩
    have member : saved ∈ journal.files := by
      rw [split]
      exact List.mem_append_right _ List.mem_cons_self
    have managed : saved.path ∈ layout.managed := by
      rw [← holds.paths]
      exact List.mem_map.mpr ⟨saved, member, rfl⟩
    refine (safe_restoreFile saved clean (ne_pending managed) held fun entry =>
      moves _ (moved.set managed entry)).mono (fun _ held => held) ?_
    intro outcome final _ ended
    cases outcome with
    | error e =>
        refine .error e fun certain => ?_
        obtain ⟨_, wrong⟩ := ended.2 certain
        cases wrong
    | ok value =>
        cases ended.1 value rfl
        refine ⟨moved.set managed _, done ++ [saved], by rw [split, List.append_assoc]; rfl, ?_⟩
        intro other among
        dsimp only
        by_cases same : other.path = saved.path
        · have again : other ∈ journal.files := by
            rw [split]
            rcases List.mem_append.mp among with old | new
            · exact List.mem_append_left _ old
            · exact List.mem_append_right _ (List.mem_singleton.mp new ▸ List.mem_cons_self)
          rw [same, Disk.set_self, ← holds.contents saved member, ← same]
          exact holds.contents other again
        · rw [Disk.set_other _ _ same]
          refine restored other ((List.mem_append.mp among).resolve_right ?_)
          intro new
          exact same (congrArg SavedFile.path (List.mem_singleton.mp new))
  · rintro after _ ⟨moved, done, split, restored⟩
    refine .ok ⟨moved, ?_⟩
    intro path member
    rw [← holds.paths] at member
    obtain ⟨saved, among, rfl⟩ := List.mem_map.mp member
    rw [holds.contents saved among]
    refine restored saved ?_
    rw [split, List.append_nil] at among
    exact among

theorem safe_restore {sure : Prop} {journal : Journal} {before : Disk}
    (holds : Holds layout journal before) (clean : sure → Clean among)
    (moves : ∀ after, Moved state after → inv after) :
    (restore journal).run.Safe (exec plan) among inv
      (Ends sure fun _ after => Moved state after ∧ Same layout after.disk before) state := by
  have held := moves state (.refl state)
  refine safe_then _ (safe_unitExists journal.files held) ?_
  rintro unit _ _ rfl
  refine safe_then _ (safe_runServiceIf _ "stop" _ clean held) ?_
  rintro _ _ _ rfl
  refine safe_then _ (safe_runServiceIf _ "disable" _ clean held) ?_
  rintro _ _ _ rfl
  refine safe_then _ (safe_restoreFiles holds clean moves (.refl _)) ?_
  rintro _ after held reached
  refine safe_then _ (safe_runService "daemon-reload" none clean held) ?_
  rintro _ _ _ rfl
  refine safe_then _ (safe_runServiceIf _ "enable" _ clean held) ?_
  rintro _ _ _ rfl
  refine (safe_runServiceIf _ "restart" _ clean held).mono (fun _ held => held) ?_
  intro outcome final _ ended
  exact ⟨fun value done => (ended.1 value done).symm ▸ reached, ended.2⟩

end Calls

section Recovery

variable {json : HostJson} {policy : HostDeploymentPolicy} {initial : Disk}
variable {plan : PlanOver layout} {among : Turn → Prop} {state after : HostState layout}
variable {journal : Journal}

theorem Keeps.moved (keeps : Keeps json layout journal state.disk) (moved : Moved state after) :
    Keeps json layout journal after.disk := by
  obtain ⟨bytes, mode, stored, rest⟩ := keeps.stored
  exact ⟨bytes, mode, (moved.2 _ layout.pending_not_managed).trans stored, rest⟩

theorem Moved.before (moved : Moved state after) : after.before = state.before := by
  rw [moved.1]

theorem Moved.begun (moved : Moved state after) : after.begun = state.begun := by
  rw [moved.1]

theorem Steady.moved (steady : Steady json policy initial state)
    (keeps : Keeps json layout journal state.disk) (holds : Holds layout journal state.before)
    (moved : Moved state after) : Steady json policy initial after where
  frame := fun path outside other =>
    (moved.2 path outside).trans (steady.frame path outside other)
  standing := .pending (keeps.moved moved) (moved.before ▸ holds)

theorem Holds.moderate {before : Disk} (holds : Holds layout journal before) :
    Moderate layout before := by
  intro path member bytes mode found
  rw [← holds.paths] at member
  obtain ⟨saved, among, rfl⟩ := List.mem_map.mp member
  have admissible := holds.admissible saved among
  rw [holds.contents saved among, SavedFile.entry] at found
  obtain ⟨_, _, same⟩ := Option.map_eq_some_iff.mp found
  cases same
  simp only [SavedFile.admissible, decide_eq_true_eq] at admissible
  exact admissible.1

/-- With the contents back in place the journal can go. -/
theorem Steady.settle (frame : ∀ path, path ∉ layout.managed → path ≠ layout.pending →
      state.disk path = initial path) (holds : Holds layout journal state.before)
    (same : Same layout state.disk state.before) :
    Steady json policy initial { state with disk := state.disk.set layout.pending none } where
  frame := fun path outside other => (Disk.set_other _ _ other).trans (frame path outside other)
  standing := .settled (Disk.set_self ..) (same.set_pending none) holds.moderate

theorem safe_readJournal {sure : Prop} {inv : HostState layout → Prop}
    (clean : sure → Clean among) (keeps : Keeps json layout journal state.disk)
    (held : inv state) :
    (readJournal json layout.pending).run.Safe (exec plan) among inv
      (Ends sure fun found after => after = state ∧ found = journal) state := by
  obtain ⟨bytes, mode, stored, short, decoded⟩ := keeps.stored
  refine safe_then (fun found after => after = state ∧ found = bytes) ?_ ?_
  · refine safe_quiet rfl held ?_
    intro turn considered
    have whole : bytes.take (journalLimit + 1) = bytes := List.take_of_length_le (by omega)
    simp only [access, stored, whole]
    cases replied : turn.reply bytes with
    | ok found => exact .ok ⟨rfl, (effective_of_reply replied).2.symm⟩
    | error e =>
        refine .error _ fun certain => ?_
        rw [reply_of_clean (clean certain turn considered)] at replied
        cases replied
  · rintro _ _ _ ⟨rfl, rfl⟩
    rw [if_neg (by omega), decoded]
    exact ⟨held, .ok ⟨rfl, rfl⟩⟩

theorem matching_journal {before : Disk} (holds : Holds layout journal before)
    (plan : PlanOver layout) : ¬ (journal.service ≠ plan.serviceUnitName ∨
      journal.files.map (·.path) ≠ expectedPaths plan.toValidatedHostPlan layout.root) := by
  rintro (service | paths)
  · exact service (holds.service.trans plan.named.symm)
  · exact paths (holds.paths.trans (expectedPaths_eq plan).symm)

theorem admissible_journal {before : Disk} (holds : Holds layout journal before) :
    ¬ (journal.files.any fun saved => !saved.admissible) = true := by
  intro refused
  obtain ⟨saved, member, inadmissible⟩ := List.any_eq_true.mp refused
  rw [holds.admissible saved member] at inadmissible
  cases inadmissible

/-- The state a recovery leaves: nothing pending, and the contents back where
something was. -/
structure Recovered (state : HostState layout) (recovered : Bool) (after : HostState layout) :
    Prop where
  begun : after.begun = state.begun
  before : after.before = state.before
  absent : after.disk layout.pending = none
  restored : state.disk layout.pending ≠ none →
    recovered = true ∧ Same layout after.disk state.before

theorem safe_recoverPending {sure : Prop} (clean : sure → Clean among)
    (steady : Steady json policy initial state) :
    (recoverPending json plan.toValidatedHostPlan layout.root).run.Safe (exec plan) among
      (Steady json policy initial) (Ends sure (Recovered state)) state := by
  unfold recoverPending
  have pending : journalPath layout.root plan.serviceUnitName = layout.pending := by
    rw [plan.named]
    rfl
  rw [pending]
  refine safe_then _ (safe_pathExists layout.pending steady) ?_
  rintro found next _ ⟨same, present⟩
  subst next
  cases found with
  | false =>
      have absent : state.disk layout.pending = none := by simpa using present.symm
      exact ⟨steady, .ok ⟨rfl, rfl, absent, fun wrong => absurd absent wrong⟩⟩
  | true =>
      obtain ⟨entry, stored⟩ := Option.isSome_iff_exists.mp present.symm
      cases steady.standing with
      | settled absent => rw [absent] at stored; cases stored
      | installed absent => rw [absent] at stored; cases stored
      | @pending journal keeps holds =>
          refine safe_then _ (safe_readJournal clean keeps steady) ?_
          rintro read next _ ⟨same, rfl⟩
          subst next
          rw [if_neg (matching_journal holds plan), if_neg (admissible_journal holds)]
          refine safe_then _ (safe_restore holds clean fun _ => steady.moved keeps holds) ?_
          rintro _ after held ⟨moved, same⟩
          have own : Holds layout read after.before := moved.before ▸ holds
          have back : Same layout after.disk after.before := moved.before ▸ same
          refine safe_then _ (safe_removeDurable layout.pending clean held
            (.settle held.frame own back)) ?_
          rintro _ _ settled rfl
          exact ⟨settled, .ok ⟨moved.begun, moved.before, Disk.set_self ..,
            fun _ => ⟨rfl, same.set_pending none⟩⟩⟩

end Recovery

end GreenticDeployer.Host
