import GreenticDeployer.Bundle.Materialize
import GreenticDeployer.Engine.Lifecycle

/-!
# The last good extraction

A run that is not cut either lays down a whole extraction of the pinned bundle or
brings back the directory it found. What it found is whole only if no run before
it was cut in the middle.
-/

set_option maxHeartbeats 200000

namespace GreenticDeployer.Bundle

open Spec Lib

def Trouble (among : Turn → Prop) : Prop := ∃ turn, among turn ∧ turn ≠ .done

/-- A part of the run leaves the backup alone. It ends with a value as said, or with an
error, and then for a reason. -/
def Ended {α : Type} (among : Turn → Prop) (backup : Option Extraction) (fine : Prop)
    (holds : α → Option Extraction → Prop) (outcome : Except OpError α) (dirs : Dirs) : Prop :=
  dirs.backup = backup ∧
    match outcome with
    | .ok value => holds value dirs.revDir
    | .error _ => fine → Trouble among

section Steps

variable {formats : Formats} {source : Source} {among : Turn → Prop} {α β : Type}

/-- However its operations turn out among those considered, a part of the run ends as
said. -/
def Reaches (formats : Formats) (source : Source) (among : Turn → Prop)
    (post : Except OpError α → Dirs → Prop) (program : Materializing α) (dirs : Dirs) : Prop :=
  program.run.Safe (exec formats source) among (fun _ => True) post dirs

variable {dirs : Dirs} {backup : Option Extraction} {fine : Prop}
variable {holds : α → Option Extraction → Prop}

theorem Reaches.pure {post : Except OpError α → Dirs → Prop} {value : α}
    (ended : post (.ok value) dirs) :
    Reaches formats source among post (Pure.pure value) dirs := ⟨trivial, ended⟩

theorem Reaches.andThen {post : Except OpError α → Dirs → Prop}
    {post' : Except OpError β → Dirs → Prop} {program : Materializing α} {f : α → Materializing β}
    (first : Reaches formats source among post program dirs)
    (fails : ∀ e next, post (.error e) next → post' (.error e) next)
    (rest : ∀ value next, post (.ok value) next →
      Reaches formats source among post' (f value) next) :
    Reaches formats source among post' (program >>= f) dirs :=
  Program.Safe.andThen post first (fun e next _ => fails e next) fun value next _ => rest value next

theorem Reaches.ask {post : Except OpError α → Dirs → Prop} {call : MaterializeCall}
    {sort : call.Reply → Except OpError α}
    (ends : ∀ turn, among turn → post (sort (exec formats source turn dirs call).1)
      (exec formats source turn dirs call).2) :
    Reaches formats source among post (Program.ask call sort) dirs :=
  ⟨trivial, fun turn considered => ⟨trivial, ends turn considered⟩⟩

/-- An operation that is done, or fails with an error and leaves the backup. -/
structure Strict (formats : Formats) (source : Source) (dirs : Dirs) (call : MaterializeCall)
    (outcome : call.Reply → Option α) (value : α) (next : Dirs) : Prop where
  done : outcome (exec formats source .done dirs call).1 = some value
  state : (exec formats source .done dirs call).2 = next
  fails : ∀ debris, outcome (exec formats source (.failed debris) dirs call).1 = none
  kept : ∀ debris, (exec formats source (.failed debris) dirs call).2.backup = dirs.backup

theorem Strict.attempt {call : MaterializeCall} {outcome : call.Reply → Option α} {value : α}
    {next : Dirs} (strict : Strict formats source dirs call outcome value next)
    (sees : ∀ turn, among turn → turn.sees = true) (failure : OpError) :
    Reaches formats source among
      (fun outcome after => (outcome = .ok value ∧ after = next) ∨
        ((∃ e, outcome = .error e) ∧ after.backup = dirs.backup ∧ Trouble among))
      (Bundle.attempt call outcome failure) dirs := by
  refine Reaches.ask fun turn considered => ?_
  cases turn with
  | done =>
      rw [strict.done]
      exact .inl ⟨rfl, strict.state⟩
  | failed debris =>
      rw [strict.fails debris]
      exact .inr ⟨⟨failure, rfl⟩, strict.kept debris, .failed debris, considered, by simp⟩
  | overlooked seen => cases sees _ considered

theorem Strict.andThen {call : MaterializeCall} {outcome : call.Reply → Option β} {value : β}
    {next : Dirs} {failure : OpError} {f : β → Materializing α}
    (strict : Strict formats source dirs call outcome value next)
    (sees : ∀ turn, among turn → turn.sees = true) (aside : dirs.backup = backup)
    (rest : Reaches formats source among (Ended among backup fine holds) (f value) next) :
    Reaches formats source among (Ended among backup fine holds)
      (Bundle.attempt call outcome failure >>= f) dirs := by
  refine Reaches.andThen (strict.attempt sees failure) ?_ ?_
  · rintro e after (⟨wrong, _⟩ | ⟨_, kept, trouble⟩)
    · cases wrong
    · exact ⟨kept.trans aside, fun _ => trouble⟩
  · rintro result after (⟨same, rfl⟩ | ⟨⟨e, wrong⟩, _⟩)
    · cases same
      exact rest
    · cases wrong

theorem Strict.last {call : MaterializeCall} {outcome : call.Reply → Option α} {value : α}
    {next : Dirs} {failure : OpError}
    (strict : Strict formats source dirs call outcome value next)
    (sees : ∀ turn, among turn → turn.sees = true) (aside : dirs.backup = backup)
    (ended : Ended among backup fine holds (.ok value) next) :
    Reaches formats source among (Ended among backup fine holds)
      (Bundle.attempt call outcome failure) dirs := by
  refine Program.Safe.mono (strict.attempt sees failure) (fun _ _ => trivial) ?_
  rintro result after - (⟨rfl, rfl⟩ | ⟨⟨e, rfl⟩, kept, trouble⟩)
  · exact ended
  · exact ⟨kept.trans aside, fun _ => trouble⟩

theorem reaches_check {outcome : Except OpError β} {f : β → Materializing α}
    (aside : dirs.backup = backup) (refused : ∀ e, outcome = .error e → ¬ fine)
    (rest : ∀ value, outcome = .ok value →
      Reaches formats source among (Ended among backup fine holds) (f value) dirs) :
    Reaches formats source among (Ended among backup fine holds) (Program.lift outcome >>= f)
      dirs := by
  cases checked : outcome with
  | ok value => exact rest value checked
  | error e => exact ⟨trivial, aside, fun good => absurd good (refused e checked)⟩

theorem Reaches.part {fine' : Prop} {holds' : β → Option Extraction → Prop}
    {program : Materializing β} {f : β → Materializing α}
    (first : Reaches formats source among (Ended among backup fine' holds') program dirs)
    (weaker : fine → fine')
    (rest : ∀ value dir, holds' value dir →
      Reaches formats source among (Ended among backup fine holds) (f value) ⟨dir, backup⟩) :
    Reaches formats source among (Ended among backup fine holds) (program >>= f) dirs := by
  refine first.andThen ?_ ?_
  · rintro e after ⟨aside, trouble⟩
    exact ⟨aside, fun good => trouble (weaker good)⟩
  · rintro value ⟨dir, _⟩ ⟨rfl, held⟩
    exact rest value dir held

theorem reaches_require {call : MaterializeCall} {found : call.Reply → Bool} {failure : OpError}
    {f : Unit → Materializing α} (aside : dirs.backup = backup)
    (sees : ∀ turn, among turn → turn.sees = true)
    (looks : ∀ turn, turn.sees = true → exec formats source turn dirs call =
      exec formats source .done dirs call)
    (state : (exec formats source .done dirs call).2 = dirs)
    (refused : found (exec formats source .done dirs call).1 = false → ¬ fine)
    (rest : found (exec formats source .done dirs call).1 = true →
      Reaches formats source among (Ended among backup fine holds) (f ()) dirs) :
    Reaches formats source among (Ended among backup fine holds)
      (Bundle.require call found failure >>= f) dirs := by
  have first : Reaches formats source among (fun outcome after => after = dirs ∧ outcome =
      if found (exec formats source .done dirs call).1 then .ok () else .error failure)
      (Bundle.require call found failure) dirs := by
    refine Reaches.ask fun turn considered => ?_
    rw [looks turn (sees turn considered), state]
    exact ⟨rfl, rfl⟩
  refine first.andThen ?_ ?_
  · rintro e _ ⟨rfl, replied⟩
    refine ⟨aside, fun good => absurd good (refused ?_)⟩
    by_contra passed
    rw [if_pos (by simpa using passed)] at replied
    cases replied
  · rintro value _ ⟨rfl, replied⟩
    refine rest ?_
    by_contra missing
    rw [if_neg missing] at replied
    cases replied

variable {target : Target} {bundle : Bytes}

theorem reaches_stageUiPack {files : Tree} (sees : ∀ turn, among turn → turn.sees = true)
    (ui : Option Bytes) :
    Reaches formats source among
      (Ended among backup True fun _ dir =>
        dir = some ⟨some (files ++ uiFile ui), some bundle, none, []⟩)
      (stageUiPack ui) ⟨some ⟨some files, some bundle, none, []⟩, backup⟩ := by
  cases ui with
  | none =>
      have same : files ++ uiFile none = files := List.append_nil files
      rw [same]
      exact .pure ⟨rfl, rfl⟩
  | some bytes =>
      have staged : Strict formats source ⟨some ⟨some files, some bundle, none, []⟩, backup⟩
          (.stageUi bytes) id ()
          ⟨some ⟨some (files ++ uiFile (some bytes)), some bundle, none, []⟩, backup⟩ :=
        ⟨rfl, rfl, fun _ => rfl, fun _ => rfl⟩
      exact staged.last sees rfl ⟨rfl, rfl⟩

theorem reaches_pinPacks {files : Tree} (sees : ∀ turn, among turn → turn.sees = true)
    (manifest : files.any (·.1 = manifestPath) = true)
    (unpacked : target.formats.unbundle bundle = some files) :
    Reaches target.formats source among
      (Ended among backup (∃ staged, target.stagedTree bundle source.cached = .ok staged)
        fun packs dir => ∃ tree, target.stagedTree bundle source.cached = .ok ⟨tree, packs⟩ ∧
          dir = some ⟨some tree, some bundle, some (target.lock packs), []⟩)
      (pinPacks target) ⟨some ⟨some files, some bundle, none, []⟩, backup⟩ := by
  have staged : target.stagedTree bundle source.cached = (do
      guardThat (runtimePacks files ≠ []) .noPacks
      let added := uiFile (target.uiPack source.cached (runtimePacks files))
      guardThat (UniquePackIds (runtimePacks files ++ added)) .duplicatePackId
      return ⟨files ++ added, runtimePacks files ++ added⟩) := by
    simp only [Target.stagedTree, unpacked, guardThat, manifest, if_true]
    rfl
  have listed : Strict target.formats source ⟨some ⟨some files, some bundle, none, []⟩, backup⟩
      .runtimePacks id (runtimePacks files) ⟨some ⟨some files, some bundle, none, []⟩, backup⟩ :=
    ⟨rfl, rfl, fun _ => rfl, fun _ => rfl⟩
  refine listed.andThen sees rfl (reaches_check rfl ?_ fun _ some_ => ?_)
  · rintro e refused ⟨whole, same⟩
    rw [staged, refused] at same
    cases same
  have looked : Strict target.formats source ⟨some ⟨some files, some bundle, none, []⟩, backup⟩
      (.webchatUi (runtimePacks files)) id (target.uiPack source.cached (runtimePacks files))
      ⟨some ⟨some files, some bundle, none, []⟩, backup⟩ :=
    ⟨rfl, rfl, fun _ => rfl, fun _ => rfl⟩
  refine looked.andThen sees rfl ?_
  refine (reaches_stageUiPack sees _).part (fun _ => trivial) ?_
  rintro _ _ rfl
  refine reaches_check rfl ?_ fun _ unique => ?_
  · rintro e refused ⟨whole, same⟩
    rw [staged, some_] at same
    change (guardThat _ _ >>= fun _ => _) = _ at same
    rw [refused] at same
    cases same
  refine Strict.andThen ⟨rfl, rfl, fun _ => rfl, fun _ => rfl⟩ sees rfl ?_
  refine Strict.andThen ⟨rfl, rfl, fun _ => rfl, fun _ => rfl⟩ sees rfl ?_
  refine .pure ⟨rfl, _, ?_, rfl⟩
  rw [staged, some_]
  change (guardThat _ _ >>= fun _ => _) = _
  rw [unique]
  rfl

def Stageable (target : Target) (source : Source) : Prop :=
  ∃ bundle, source.bundle = some bundle ∧
    ∃ staged, target.stagedTree bundle source.cached = .ok staged

def Staged (target : Target) (source : Source) (staged : StagedBundle) (dir : Option Extraction) :
    Prop :=
  ∃ bundle tree, source.bundle = some bundle ∧
    staged.bundleDigest = target.formats.sha256 bundle ∧
    target.stagedTree bundle source.cached = .ok ⟨tree, staged.packs⟩ ∧
    dir = some ⟨some tree, some bundle, some (target.lock staged.packs), []⟩

theorem reaches_stageInto {cached : Option Bytes} (sees : ∀ turn, among turn → turn.sees = true) :
    Reaches target.formats ⟨some bundle, cached⟩ among
      (Ended among backup (Stageable target ⟨some bundle, cached⟩)
        (Staged target ⟨some bundle, cached⟩))
      (stageInto target) ⟨none, backup⟩ := by
  have cleared : Strict target.formats ⟨some bundle, cached⟩ ⟨none, backup⟩ .clearExtract id ()
      ⟨none, backup⟩ := ⟨rfl, rfl, fun _ => rfl, fun _ => rfl⟩
  have created : Strict target.formats ⟨some bundle, cached⟩ ⟨none, backup⟩ .createExtract id ()
      ⟨some ⟨some [], none, none, []⟩, backup⟩ := ⟨rfl, rfl, fun _ => rfl, fun _ => rfl⟩
  have copied : Strict target.formats ⟨some bundle, cached⟩
      ⟨some ⟨some [], none, none, []⟩, backup⟩ .copyBundle id ()
      ⟨some ⟨some [], some bundle, none, []⟩, backup⟩ := ⟨rfl, rfl, fun _ => rfl, fun _ => rfl⟩
  have hashed : Strict target.formats ⟨some bundle, cached⟩
      ⟨some ⟨some [], some bundle, none, []⟩, backup⟩ .hashStaged id (target.formats.sha256 bundle)
      ⟨some ⟨some [], some bundle, none, []⟩, backup⟩ := ⟨rfl, rfl, fun _ => rfl, fun _ => rfl⟩
  refine cleared.andThen sees rfl (created.andThen sees rfl (copied.andThen sees rfl
    (hashed.andThen sees rfl ?_)))
  cases unpacked : target.formats.unbundle bundle with
  | none =>
      have refused : ¬ Stageable target ⟨some bundle, cached⟩ := by
        rintro ⟨_, ⟨⟩, staged, same⟩
        simp [Target.stagedTree, unpacked] at same
      have failed : Reaches target.formats ⟨some bundle, cached⟩ among
          (Ended among backup (Stageable target ⟨some bundle, cached⟩) fun _ _ => False)
          (attempt .unbundle id .extract) ⟨some ⟨some [], some bundle, none, []⟩, backup⟩ := by
        refine Reaches.ask fun turn _ => ?_
        have stuck : exec target.formats ⟨some bundle, cached⟩ turn
            ⟨some ⟨some [], some bundle, none, []⟩, backup⟩ .unbundle =
            (none, ⟨some ⟨some [], some bundle, none, []⟩, backup⟩) := by
          simp [exec, Dirs.bundle, unpacked]
        rw [stuck]
        exact ⟨rfl, fun good => absurd good refused⟩
      exact failed.part id fun _ _ wrong => wrong.elim
  | some files =>
      have extracted : Strict target.formats ⟨some bundle, cached⟩
          ⟨some ⟨some [], some bundle, none, []⟩, backup⟩ .unbundle id ()
          ⟨some ⟨some files, some bundle, none, []⟩, backup⟩ := by
        constructor <;> simp [exec, Dirs.bundle, Dirs.write, writing, unpacked]
      refine extracted.andThen sees rfl ?_
      refine reaches_require rfl sees ?_ rfl ?_ fun manifest => ?_
      · intro turn looks
        cases turn <;> first | rfl | cases looks
      · rintro missing ⟨_, ⟨⟩, staged, same⟩
        have absent : files.any (·.1 = manifestPath) = false := missing
        simp only [Target.stagedTree, unpacked, guardThat, absent] at same
        cases same
      · refine (reaches_pinPacks sees manifest unpacked).part ?_ ?_
        · rintro ⟨_, ⟨⟩, staged⟩
          exact staged
        · rintro packs _ ⟨tree, staged, rfl⟩
          exact .pure ⟨rfl, bundle, tree, rfl, rfl, staged, rfl⟩

theorem reaches_stageLocalBundle (sees : ∀ turn, among turn → turn.sees = true) :
    Reaches target.formats source among
      (Ended among backup (Stageable target source) (Staged target source))
      (stageLocalBundle target) ⟨none, backup⟩ := by
  obtain ⟨file, cached⟩ := source
  refine reaches_require rfl sees ?_ rfl ?_ fun found => ?_
  · intro turn looks
    cases turn <;> first | rfl | cases looks
  · rintro missing ⟨bundle, rfl, _⟩
    cases missing
  · obtain ⟨bundle, rfl⟩ := Option.isSome_iff_exists.mp found
    refine Program.Safe.rescue _ (reaches_stageInto sees) (fun _ _ _ ended => ended) ?_
    rintro e dirs - ⟨rfl, trouble⟩
    exact ⟨trivial, fun _ _ => ⟨trivial, rfl, trouble⟩⟩

theorem reaches_writePackConfigs {ids : List String} {tree : Tree} {lock : PackListLock}
    (sees : ∀ turn, among turn → turn.sees = true) (inputs : Tree) (configs : List PackConfig) :
    Reaches target.formats source among
      (Ended among backup (∃ docs, inputs.mapM (target.config ids) = .ok docs) fun _ dir =>
        ∃ docs, inputs.mapM (target.config ids) = .ok docs ∧
          dir = some ⟨some tree, some bundle, some lock, configs ++ docs⟩)
      (inputs.forM (writePackConfig target ids))
      ⟨some ⟨some tree, some bundle, some lock, configs⟩, backup⟩ := by
  induction inputs generalizing configs with
  | nil => exact .pure ⟨rfl, [], rfl, by rw [List.append_nil]⟩
  | cons file rest ih =>
      have read : Strict target.formats source
          ⟨some ⟨some tree, some bundle, some lock, configs⟩, backup⟩ (.readInput file.1) id ()
          ⟨some ⟨some tree, some bundle, some lock, configs⟩, backup⟩ :=
        ⟨rfl, rfl, fun _ => rfl, fun _ => rfl⟩
      have body : Reaches target.formats source among
          (Ended among backup (∃ config, target.config ids file = .ok config) fun _ dir =>
            ∃ config, target.config ids file = .ok config ∧
              dir = some ⟨some tree, some bundle, some lock, configs ++ [config]⟩)
          (writePackConfig target ids file)
          ⟨some ⟨some tree, some bundle, some lock, configs⟩, backup⟩ := by
        refine read.andThen sees rfl (reaches_check rfl ?_ fun config checked => ?_)
        · rintro e refused ⟨config, same⟩
          rw [refused] at same
          cases same
        · have written : Strict target.formats source
              ⟨some ⟨some tree, some bundle, some lock, configs⟩, backup⟩ (.writeConfig config) id
              () ⟨some ⟨some tree, some bundle, some lock, configs ++ [config]⟩, backup⟩ :=
            ⟨rfl, rfl, fun _ => rfl, fun _ => rfl⟩
          exact written.last sees rfl ⟨rfl, config, checked, rfl⟩
      refine body.part ?_ ?_
      · rintro ⟨docs, all⟩
        rw [List.mapM_cons] at all
        cases first : target.config ids file with
        | ok config => exact ⟨config, rfl⟩
        | error e =>
            rw [first] at all
            cases all
      · rintro _ _ ⟨config, first, rfl⟩
        refine Program.Safe.mono (ih (configs ++ [config])) (fun _ _ => trivial) ?_
        rintro outcome dirs - ⟨aside, ended⟩
        refine ⟨aside, ?_⟩
        cases outcome with
        | ok _ =>
            obtain ⟨docs, others, whole⟩ := ended
            refine ⟨config :: docs, ?_, by rw [whole, List.append_assoc]; rfl⟩
            rw [List.mapM_cons, first, others]
            rfl
        | error e =>
            rintro ⟨docs, all⟩
            rw [List.mapM_cons, first] at all
            cases others : rest.mapM (target.config ids) with
            | ok docs => exact ended ⟨docs, others⟩
            | error e =>
                rw [others] at all
                cases all

theorem reaches_materializePackConfigs {tree packs : Tree} {lock : PackListLock}
    (sees : ∀ turn, among turn → turn.sees = true) :
    Reaches target.formats source among
      (Ended among backup
        (∃ docs, (configInputs tree).mapM (target.config (packConfigPackIds target.formats packs)) =
          .ok docs) fun _ dir =>
        ∃ docs, (configInputs tree).mapM (target.config (packConfigPackIds target.formats packs)) =
          .ok docs ∧ dir = some ⟨some tree, some bundle, some lock, docs⟩)
      (materializePackConfigs target packs)
      ⟨some ⟨some tree, some bundle, some lock, []⟩, backup⟩ := by
  have named : Reaches target.formats source among
      (Ended among backup True fun ids dir => ids = packConfigPackIds target.formats packs ∧
        dir = some ⟨some tree, some bundle, some lock, []⟩)
      (Program.ask (.packIds packs) .ok) ⟨some ⟨some tree, some bundle, some lock, []⟩, backup⟩ := by
    refine Reaches.ask fun turn considered => ⟨rfl, ?_, rfl⟩
    have pinned : (if turn.sees then packConfigPackIds target.formats packs
        else packs.map fun file => fileStem file.1) = packConfigPackIds target.formats packs :=
      if_pos (sees turn considered)
    exact pinned
  refine named.part (fun _ => trivial) ?_
  rintro _ _ ⟨rfl, rfl⟩
  have listed : Strict target.formats source ⟨some ⟨some tree, some bundle, some lock, []⟩, backup⟩
      .configInputs id (configInputs tree) ⟨some ⟨some tree, some bundle, some lock, []⟩, backup⟩ :=
    ⟨rfl, rfl, fun _ => rfl, fun _ => rfl⟩
  refine listed.andThen sees rfl ?_
  split
  · rename_i none_
    have empty : configInputs tree = [] := List.isEmpty_iff.mp none_
    rw [empty]
    exact .pure ⟨rfl, [], rfl, rfl⟩
  · have created : Strict target.formats source
        ⟨some ⟨some tree, some bundle, some lock, []⟩, backup⟩ .createConfigDir id ()
        ⟨some ⟨some tree, some bundle, some lock, []⟩, backup⟩ :=
      ⟨rfl, rfl, fun _ => rfl, fun _ => rfl⟩
    exact created.andThen sees rfl (reaches_writePackConfigs sees _ [])

theorem extraction_ok {cached : Option Bytes} {whole : Extraction} :
    target.extraction bundle cached = .ok whole ↔ ∃ staged docs,
      target.stagedTree bundle cached = .ok staged ∧
      target.gate (target.formats.sha256 bundle) = .ok () ∧
      (configInputs staged.tree).mapM
        (target.config (packConfigPackIds target.formats staged.packs)) = .ok docs ∧
      whole = ⟨some staged.tree, some bundle, some (target.lock staged.packs), docs⟩ := by
  unfold Target.extraction
  cases tree : target.stagedTree bundle cached with
  | error e => simp [bind, Except.bind]
  | ok staged =>
      cases gate : target.gate (target.formats.sha256 bundle) with
      | error e => simp [bind, Except.bind]
      | ok _ =>
          cases docs : (configInputs staged.tree).mapM
            (target.config (packConfigPackIds target.formats staged.packs)) with
          | error e => simp [bind, Except.bind, docs]
          | ok docs => simp [bind, Except.bind, pure, Except.pure, docs, eq_comm]

theorem gate_digest {digest : String} {value : Unit} (passed : target.gate digest = .ok value) :
    digest = target.revision.bundleDigest := by
  unfold Target.gate at passed
  cases checked : guardThat (digest = target.revision.bundleDigest) (.bundleDigest digest) with
  | ok _ => exact guardThat_ok checked
  | error e =>
      rw [checked] at passed
      cases passed

def Good (target : Target) (source : Source) : Prop :=
  ∃ bundle whole, source.bundle = some bundle ∧
    target.extraction bundle source.cached = .ok whole

theorem reaches_materializeIntoRevDir (sees : ∀ turn, among turn → turn.sees = true) :
    Reaches target.formats source among
      (Ended among backup (Good target source) fun _ dir => target.Complete dir)
      (materializeIntoRevDir target) ⟨none, backup⟩ := by
  refine (reaches_stageLocalBundle sees).part ?_ ?_
  · rintro ⟨bundle, whole, file, made⟩
    obtain ⟨staged, _, tree, _⟩ := extraction_ok.mp made
    exact ⟨bundle, file, staged, tree⟩
  · rintro ⟨digest, packs⟩ _ ⟨bundle, tree, file, rfl, staged, rfl⟩
    have same : ∀ other whole, source.bundle = some other →
        target.extraction other source.cached = .ok whole →
        target.extraction bundle source.cached = .ok whole := by
      intro other whole found made
      rw [file] at found
      cases found
      exact made
    refine reaches_check rfl ?_ fun _ gated => ?_
    · rintro e refused ⟨other, whole, found, made⟩
      obtain ⟨_, _, _, gate, _⟩ := extraction_ok.mp (same other whole found made)
      rw [refused] at gate
      cases gate
    · refine Program.Safe.mono (reaches_materializePackConfigs sees) (fun _ _ => trivial) ?_
      rintro outcome dirs - ⟨aside, ended⟩
      refine ⟨aside, ?_⟩
      cases outcome with
      | ok _ =>
          obtain ⟨docs, all, dir⟩ := ended
          exact ⟨bundle, source.cached, _, gate_digest gated,
            extraction_ok.mpr ⟨_, docs, staged, gated, all, rfl⟩, dir⟩
      | error e =>
          rintro ⟨other, whole, found, made⟩
          obtain ⟨_, docs, tree, _, all, _⟩ := extraction_ok.mp (same other whole found made)
          rw [staged] at tree
          cases tree
          exact ended ⟨docs, all⟩

/-- What the move aside leaves: the directory is away, and in the backup if there was
one. -/
def SetAside (among : Turn → Prop) (before : Dirs) (outcome : Except OpError Bool) (after : Dirs) :
    Prop :=
  match outcome with
  | .ok hadExisting => after.revDir = none ∧
      before.revDir = if hadExisting then after.backup else none
  | .error _ => after.revDir = before.revDir ∧ Trouble among

theorem reaches_setAside (sees : ∀ turn, among turn → turn.sees = true) :
    Reaches formats source among (SetAside among dirs) setAside dirs := by
  have removed : Reaches formats source among (fun outcome after => outcome = .ok () ∧
      after.revDir = dirs.revDir ∧ (after.backup = none ∨ Trouble among))
      (ignoring .removeBackup) dirs := by
    refine Reaches.ask fun turn considered => ⟨rfl, ?_⟩
    cases turn with
    | done => exact ⟨rfl, .inl rfl⟩
    | failed debris => exact ⟨rfl, .inr ⟨.failed debris, considered, by simp⟩⟩
    | overlooked seen => cases sees _ considered
  refine removed.andThen (fun _ _ wrong => by cases wrong.1) ?_
  rintro _ cleared ⟨-, kept, free⟩
  have looked : Reaches formats source among (fun outcome after => after = cleared ∧
      outcome = .ok cleared.revDir.isSome) (Program.ask .revDirExists .ok) cleared := by
    refine Reaches.ask fun turn considered => ⟨rfl, ?_⟩
    have found : (turn.sees && cleared.revDir.isSome) = cleared.revDir.isSome := by
      rw [sees turn considered, Bool.true_and]
    exact congrArg Except.ok found
  refine looked.andThen (fun _ _ wrong => by cases wrong.2) ?_
  intro hadExisting after ⟨same, found⟩
  rw [same, Except.ok.inj found]
  split
  · rename_i existing
    have moved : Reaches formats source among (fun outcome after =>
        match outcome with
        | .ok _ => after = ⟨none, cleared.revDir⟩
        | .error _ => after = cleared ∧ Trouble among) (attempt .setAside id .io) cleared := by
      refine Reaches.ask fun turn considered => ?_
      cases turn with
      | overlooked seen => cases sees _ considered
      | failed debris => exact ⟨rfl, .failed debris, considered, by simp⟩
      | done =>
          obtain ⟨revDir, backup⟩ := cleared
          cases backup with
          | none => rfl
          | some old =>
              refine ⟨rfl, free.resolve_left ?_⟩
              simp
    refine moved.andThen ?_ ?_
    · rintro e after ⟨rfl, trouble⟩
      exact ⟨kept, trouble⟩
    · rintro _ after rfl
      refine .pure ⟨rfl, ?_⟩
      rw [kept]
      rfl
  · rename_i missing
    have absent : cleared.revDir = none := by simpa using missing
    exact .pure ⟨absent, by rw [← kept, absent]; rfl⟩

def Ran (target : Target) (source : Source) (among : Turn → Prop) (before : Dirs)
    (outcome : Except OpError Unit) (after : Dirs) : Prop :=
  match outcome with
  | .ok _ => target.Complete after.revDir
  | .error _ => after.revDir = before.revDir ∧ (Good target source → Trouble among)

theorem reaches_materialize {env : Environment} {revisionId : RevisionId}
    (sees : ∀ turn, among turn → turn.sees = true)
    (located : locate formats env revisionId = .ok target) :
    Reaches formats source among (Ran target source among dirs)
      (materializeRevisionFromBundle formats env revisionId) dirs := by
  have same : target.formats = formats := by
    unfold locate at located
    split at located
    · cases located
    · split at located
      · cases located
      · cases located
        rfl
  subst same
  have loaded : Reaches target.formats source among (fun outcome after => after = dirs ∧
      (outcome = .ok () ∨ Trouble among)) (attempt .load id .io) dirs := by
    refine Reaches.ask fun turn considered => ⟨rfl, ?_⟩
    cases turn with
    | done => exact .inl rfl
    | failed debris => exact .inr ⟨.failed debris, considered, by simp⟩
    | overlooked seen => cases sees _ considered
  refine loaded.andThen ?_ ?_
  · intro e after ⟨same, reason⟩
    rcases reason with wrong | trouble
    · cases wrong
    · exact ⟨congrArg Dirs.revDir same, fun _ => trouble⟩
  intro _ after ⟨same, _⟩
  rw [same, located]
  have found : Reaches target.formats source among (fun outcome after => after = dirs ∧
      outcome = .ok target) (Program.lift (.ok target)) dirs := ⟨trivial, rfl, rfl⟩
  refine found.andThen (fun _ _ wrong => by cases wrong.2) ?_
  intro _ after ⟨same, value⟩
  rw [same, Except.ok.inj value]
  refine (reaches_setAside sees).andThen ?_ ?_
  · rintro e after ⟨kept, trouble⟩
    exact ⟨kept, fun _ => trouble⟩
  rintro hadExisting ⟨_, backup⟩ ⟨rfl, found⟩
  have laid : Reaches target.formats source among
      (Ended among backup (Good target source) fun _ dir => target.Complete dir) (do
        materializeIntoRevDir target
        attempt .refreshRuntimeConfig id .io) ⟨none, backup⟩ := by
    refine (reaches_materializeIntoRevDir sees).part id ?_
    intro _ dir whole
    have refreshed : Strict target.formats source ⟨dir, backup⟩ .refreshRuntimeConfig id ()
        ⟨dir, backup⟩ := ⟨rfl, rfl, fun _ => rfl, fun _ => rfl⟩
    exact refreshed.last sees rfl ⟨rfl, whole⟩
  have settled : Reaches target.formats source among (Ran target source among dirs)
      (Program.rescue (do
        materializeIntoRevDir target
        attempt .refreshRuntimeConfig id .io) fun e => do
          rollBack hadExisting
          throw e) ⟨none, backup⟩ := by
    refine Program.Safe.rescue _ laid (fun _ _ _ ended => ended.2) ?_
    rintro e ⟨dir, _⟩ - ⟨rfl, trouble⟩
    cases hadExisting with
    | true => exact ⟨trivial, fun _ _ => ⟨trivial, fun _ _ => ⟨trivial, found.symm, trouble⟩⟩⟩
    | false => exact ⟨trivial, fun _ _ => ⟨trivial, found.symm, trouble⟩⟩
  refine settled.andThen (fun _ _ ended => ended) ?_
  intro _ after whole
  refine Reaches.ask fun turn _ => ?_
  cases turn <;> exact whole

theorem reaches_unlocated {env : Environment} {revisionId : RevisionId} {e : OpError}
    (missing : locate formats env revisionId = .error e) :
    Reaches formats source among (fun outcome _ => ∃ e, outcome = .error e)
      (materializeRevisionFromBundle formats env revisionId) dirs := by
  have loaded : Reaches formats source among (fun _ _ => True) (attempt .load id .io) dirs :=
    Reaches.ask fun _ _ => trivial
  have anyway : Reaches formats source among
      (fun outcome _ => outcome = .ok () ∨ ∃ e, outcome = .error e) (attempt .load id .io) dirs := by
    refine Program.Safe.mono loaded (fun _ _ => trivial) ?_
    intro outcome _ _ _
    cases outcome with
    | ok value => exact .inl rfl
    | error e => exact .inr ⟨e, rfl⟩
  refine anyway.andThen (fun e _ _ => ⟨e, rfl⟩) ?_
  intro _ after _
  rw [missing]
  exact ⟨trivial, e, rfl⟩

end Steps

section Runs

variable (formats : Formats) (env : Environment) (revisionId : RevisionId)

/-- The directory holds a whole extraction of a bundle with the revision's digest. -/
def Whole (dir : Option Extraction) : Prop :=
  ∃ target, locate formats env revisionId = .ok target ∧ target.Complete dir

def Smooth (run : MaterializeRun) : Prop :=
  (∃ target, locate formats env revisionId = .ok target ∧ Good target run.source) ∧
    ∀ turn ∈ run.turns, turn = .done

/-- The condition on a run: its lookups see what is there, and once a run has returned
`Ok` it finds the directory whole, or is itself cut, or nothing in it fails. -/
def Fit (history : History) (run : MaterializeRun) : Prop :=
  (∀ turn ∈ run.turns, turn.sees = true) ∧
    (history.promoted = true → Whole formats env revisionId history.dirs.revDir ∨
      run.outcome formats env revisionId history.dirs = none ∨
      Smooth formats env revisionId run)

def materializing : System History MaterializeRun where
  step := fun history run => run.step formats env revisionId history
  allowed := Fit formats env revisionId

/-- What holds once a run has returned `Ok`: the revision is in the environment, and the
directory is whole after a run that returned. -/
structure Kept (history : History) : Prop where
  located : history.promoted = true → ∃ target, locate formats env revisionId = .ok target
  whole : history.promoted = true → history.returned = true →
    Whole formats env revisionId history.dirs.revDir

variable {formats env revisionId}

theorem MaterializeRun.promoted_cases {history : History} {run : MaterializeRun}
    (promoted : (run.step formats env revisionId history).promoted = true) :
    history.promoted = true ∨ run.outcome formats env revisionId history.dirs = some (.ok ()) := by
  rcases Bool.or_eq_true_iff.mp promoted with before | now
  · exact .inl before
  · right
    cases ended : run.outcome formats env revisionId history.dirs with
    | none => simp [ended] at now
    | some outcome =>
        cases outcome with
        | ok _ => rfl
        | error e => simp [ended, Except.isOk, Except.toBool] at now

theorem MaterializeRun.ran {history : History} {run : MaterializeRun} {target : Target}
    {outcome : Except OpError Unit} (located : locate formats env revisionId = .ok target)
    (sees : ∀ turn ∈ run.turns, turn.sees = true)
    (ended : run.outcome formats env revisionId history.dirs = some outcome) :
    Ran target run.source (fun turn => turn ∈ run.turns) history.dirs outcome
      (run.after formats env revisionId history.dirs) := by
  have reached : Reaches formats run.source (fun turn => turn ∈ run.turns) _ _ history.dirs :=
    reaches_materialize sees located
  exact Program.Safe.outcome reached run.turns (fun _ member => member) ended

theorem MaterializeRun.located_of_ok {history : History} {run : MaterializeRun}
    (ended : run.outcome formats env revisionId history.dirs = some (.ok ())) :
    ∃ target, locate formats env revisionId = .ok target := by
  cases located : locate formats env revisionId with
  | ok target => exact ⟨target, rfl⟩
  | error e =>
      have reached : Reaches formats run.source (fun turn => turn ∈ run.turns) _ _ history.dirs :=
        reaches_unlocated located
      obtain ⟨_, wrong⟩ :=
        Program.Safe.outcome reached run.turns (fun _ member => member) ended
      cases wrong

theorem Kept.step {history : History} {run : MaterializeRun}
    (kept : Kept formats env revisionId history) (fit : Fit formats env revisionId history run) :
    Kept formats env revisionId (run.step formats env revisionId history) where
  located := by
    intro promoted
    rcases run.promoted_cases promoted with before | now
    · exact kept.located before
    · exact run.located_of_ok now
  whole := by
    intro promoted returned
    obtain ⟨outcome, ended⟩ := Option.isSome_iff_exists.mp returned
    cases outcome with
    | ok _ =>
        obtain ⟨target, located⟩ := run.located_of_ok ended
        exact ⟨target, located, run.ran located fit.1 ended⟩
    | error e =>
        have before : history.promoted = true := by
          refine (run.promoted_cases promoted).resolve_right fun now => ?_
          rw [ended] at now
          cases now
        obtain ⟨target, located⟩ := kept.located before
        obtain ⟨restored, reason⟩ := run.ran located fit.1 ended
        have back : (run.step formats env revisionId history).dirs.revDir = history.dirs.revDir :=
          restored
        rcases fit.2 before with whole | cut | ⟨⟨other, same, good⟩, smooth⟩
        · rw [back]
          exact whole
        · rw [ended] at cut
          cases cut
        · rw [located] at same
          cases same
          obtain ⟨turn, member, failed⟩ := reason good
          exact absurd (smooth turn member) failed

variable (formats env revisionId)

/-- However runs fail or are cut, once one of them has returned `Ok` the directory is
whole after every run that returns, as long as no run that may fail starts from what a
cut one has left. -/
theorem last_good_kept (dirs : Dirs) (runs : List MaterializeRun)
    (admits : (materializing formats env revisionId).Admits ⟨dirs, false, false⟩ runs) :
    ∀ history ∈ (materializing formats env revisionId).states ⟨dirs, false, false⟩ runs,
      history.promoted = true → history.returned = true →
        Whole formats env revisionId history.dirs.revDir := by
  have kept := (materializing formats env revisionId).invariant (Kept formats env revisionId)
    (fun history run fit kept => kept.step fit) ⟨dirs, false, false⟩ runs admits ⟨nofun, nofun⟩
  exact fun history visited => (kept history visited).whole

end Runs

def sampleFormats : Formats where
  sha256 := id
  unbundle := fun bundle => some [(manifestPath, bundle), (["packs", "app.gtpack"], bundle)]
  parseInput := fun _ => none
  manifestPackId := fun _ => none
  needsWebchatUi := fun _ => false

def samplePayload : Engine.StageRevisionPayload :=
  { Engine.demoRevision with
    bundleDigest := "sha256:00"
    packListLockRef := packListLockRef ⟨7⟩ }

def sampleEnv : Environment := (Engine.stageRevision Engine.deployedOnly samplePayload 1).2

def pulled : Source := ⟨some "sha256:00", none⟩

def whole : MaterializeRun := ⟨pulled, List.replicate 18 .done⟩

def cutAside : MaterializeRun := ⟨pulled, List.replicate 4 .done⟩

def unpulled : MaterializeRun := ⟨⟨none, none⟩, List.replicate 8 .done⟩

/-- A failed run after a good one brings the extraction back. -/
theorem failed_run_restores :
    let history := (materializing sampleFormats sampleEnv ⟨7⟩).run ⟨⟨none, none⟩, false, false⟩
      [whole, unpulled]
    history.promoted = true ∧ history.returned = true ∧
      Whole sampleFormats sampleEnv ⟨7⟩ history.dirs.revDir := by
  have promoted : ((materializing sampleFormats sampleEnv ⟨7⟩).run ⟨⟨none, none⟩, false, false⟩
      [whole, unpulled]).promoted = true := by decide +kernel
  have returned : ((materializing sampleFormats sampleEnv ⟨7⟩).run ⟨⟨none, none⟩, false, false⟩
      [whole, unpulled]).returned = true := by decide +kernel
  have first : Fit sampleFormats sampleEnv ⟨7⟩ ⟨⟨none, none⟩, false, false⟩ whole :=
    ⟨by decide, nofun⟩
  have good : Kept sampleFormats sampleEnv ⟨7⟩
      (whole.step sampleFormats sampleEnv ⟨7⟩ ⟨⟨none, none⟩, false, false⟩) :=
    Kept.step ⟨nofun, nofun⟩ first
  have second : Fit sampleFormats sampleEnv ⟨7⟩
      (whole.step sampleFormats sampleEnv ⟨7⟩ ⟨⟨none, none⟩, false, false⟩) unpulled :=
    ⟨by decide, fun before => .inl (good.whole before (by decide +kernel))⟩
  exact ⟨promoted, returned, last_good_kept sampleFormats sampleEnv ⟨7⟩ ⟨none, none⟩
    [whole, unpulled] ⟨first, second, trivial⟩ _ (System.run_mem_states _ _ _) promoted returned⟩

/-- A run that returns, one that is cut, and one that fails: what the first laid down is
gone. -/
theorem cut_run_loses_the_extraction :
    let history := ((materializing sampleFormats sampleEnv ⟨7⟩).run ⟨⟨none, none⟩, false, false⟩
      [whole, cutAside, unpulled])
    history.promoted = true ∧ history.returned = true ∧ history.dirs = ⟨none, none⟩ ∧
      ¬ Whole sampleFormats sampleEnv ⟨7⟩ history.dirs.revDir := by
  have ends : (materializing sampleFormats sampleEnv ⟨7⟩).run ⟨⟨none, none⟩, false, false⟩
      [whole, cutAside, unpulled] = ⟨⟨none, none⟩, true, true⟩ := by decide +kernel
  rw [ends]
  refine ⟨rfl, rfl, rfl, ?_⟩
  rintro ⟨target, located, bundle, cached, _, _, _, missing⟩
  cases missing

end GreenticDeployer.Bundle
