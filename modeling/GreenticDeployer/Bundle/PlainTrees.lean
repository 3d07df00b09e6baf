import GreenticDeployer.Bundle.PackLists

/-!
# Trees without links

A run works on an extracted tree as the list of its files. Where the tree has no links,
what it stages from them is what a walk of the directories stages.
-/

set_option maxHeartbeats 200000

namespace GreenticDeployer.Bundle.Staging

open Spec Lib

/-- The files below a directory, in the order in which they are read. -/
def plainFiles (dir : RelPath) : Dir → Tree
  | .nil => []
  | .file name content rest => (dir ++ [name], content) :: plainFiles dir rest
  | .symlink _ _ rest => plainFiles dir rest
  | .directory name children rest => plainFiles (dir ++ [name]) children ++ plainFiles dir rest

@[simp] theorem plainFiles_nil (dir : RelPath) : plainFiles dir .nil = [] := rfl

@[simp] theorem plainFiles_file (dir : RelPath) (name : String) (content : Bytes) (rest : Dir) :
    plainFiles dir (.file name content rest) =
      (dir ++ [name], content) :: plainFiles dir rest := rfl

@[simp] theorem plainFiles_symlink (dir : RelPath) (name : String) (target : List String)
    (rest : Dir) : plainFiles dir (.symlink name target rest) = plainFiles dir rest := rfl

@[simp] theorem plainFiles_directory (dir : RelPath) (name : String) (children rest : Dir) :
    plainFiles dir (.directory name children rest) =
      plainFiles (dir ++ [name]) children ++ plainFiles dir rest := rfl

theorem plainFiles_below {dir : RelPath} {tree : Dir} {file : RelPath × Bytes}
    (member : file ∈ plainFiles dir tree) : ∃ name more, file.1 = dir ++ name :: more := by
  induction tree generalizing dir with
  | nil => cases member
  | file name content rest ih =>
      rcases List.mem_cons.mp member with rfl | later
      · exact ⟨name, [], rfl⟩
      · exact ih later
  | symlink name target rest ih => exact ih member
  | directory name children rest innerIH restIH =>
      rcases List.mem_append.mp member with inner | later
      · obtain ⟨first, more, path⟩ := innerIH inner
        exact ⟨name, first :: more, by simp [path]⟩
      · exact restIH later

theorem collectGtpacks_eq (dir : RelPath) (tree : Dir) :
    collectGtpacks dir tree =
      ((plainFiles dir tree).filter fun file => hasExtension "gtpack" file.1).map (·.1) := by
  induction tree generalizing dir with
  | nil => rfl
  | file name content rest ih =>
      have own : hasExtension "gtpack" (dir ++ [name]) = hasExtension "gtpack" [name] :=
        hasExtension_append "gtpack" dir (by simp)
      by_cases pack : hasExtension "gtpack" [name] = true
      · simp [own, pack, ih]
      · simp [own, pack, ih]
  | symlink name target rest ih => exact ih dir
  | directory name children rest innerIH restIH =>
      simp [innerIH, restIH]

theorem collectDomains_eq (tree : Dir) :
    collectDomains tree = (((plainFiles providersDir tree).filter fun file =>
      hasExtension "gtpack" file.1).filter fun file => inRuntimeDomain file.1).map (·.1) := by
  induction tree with
  | nil => rfl
  | file name content rest ih =>
      have direct : inRuntimeDomain (providersDir ++ [name]) = false := rfl
      rw [collectDomains_file, ih, plainFiles_file, List.filter_cons]
      split
      · rw [List.filter_cons_of_neg (by simp [direct])]
      · rfl
  | symlink name target rest ih => exact ih
  | directory domain children rest _ ih =>
      have inside : ∀ file ∈ (plainFiles (providersDir ++ [domain]) children).filter
          (fun file => hasExtension "gtpack" file.1),
          inRuntimeDomain file.1 = decide (domain ∉ nonRuntimeProviderDomains) := by
        intro file member
        obtain ⟨first, more, path⟩ := plainFiles_below (List.mem_of_mem_filter member)
        rw [path]
        rfl
      rw [collectDomains_directory, ih, plainFiles_directory, List.filter_append, List.filter_append, List.map_append]
      by_cases other : domain ∈ nonRuntimeProviderDomains
      · have none : ((plainFiles (providersDir ++ [domain]) children).filter
            fun file => hasExtension "gtpack" file.1).filter
              (fun file => inRuntimeDomain file.1) = [] :=
          List.filter_eq_nil_iff.mpr fun file member => by simp [inside file member, other]
        rw [if_pos other, none]
        rfl
      · have all : ((plainFiles (providersDir ++ [domain]) children).filter
            fun file => hasExtension "gtpack" file.1).filter
              (fun file => inRuntimeDomain file.1) =
            (plainFiles (providersDir ++ [domain]) children).filter
              fun file => hasExtension "gtpack" file.1 :=
          List.filter_eq_self.mpr fun file member => by simp [inside file member, other]
        rw [if_neg other, all, collectGtpacks_eq]

theorem subtree_of_not_mem {tree : Dir} {name : String} (absent : name ∉ tree.names) :
    tree.subtree [name] = none := by
  cases there : tree.subtree [name] with
  | none => rfl
  | some children =>
      have dir := Entries.kindAt_eq_directory.mpr ⟨children, there⟩
      rw [Entries.kindAt_cons, Entries.kindBelow_of_not_mem absent] at dir
      cases dir

theorem filter_below {tree : Dir} (distinct : tree.Distinct) (root : String) :
    (plainFiles [] tree).filter (fun file => below [root] file.1) =
      ((tree.subtree [root]).map (plainFiles [root])).getD [] := by
  induction tree with
  | nil => rfl
  | file name content rest ih =>
      have short : below [root] [name] = false := by simp [below]
      rw [plainFiles_file, List.filter_cons_of_neg (by simp [short]), ih distinct.2]
      by_cases same : name = root
      · subst same
        rw [subtree_of_not_mem distinct.1]
        simp
      · simp [same]
  | symlink name target rest ih =>
      rw [plainFiles_symlink, ih distinct.2]
      by_cases same : name = root
      · subst same
        rw [subtree_of_not_mem distinct.1]
        simp
      · simp [same]
  | directory name children rest _ ih =>
      rw [plainFiles_directory, List.filter_append, ih distinct.2.2]
      by_cases same : name = root
      · subst same
        have all : (plainFiles ([] ++ [name]) children).filter
            (fun file => below [name] file.1) = plainFiles [name] children := by
          refine List.filter_eq_self.mpr fun file member => ?_
          obtain ⟨first, more, path⟩ := plainFiles_below member
          simp [below, path]
        rw [subtree_of_not_mem distinct.1, all]
        simp
      · have none : (plainFiles ([] ++ [name]) children).filter
            (fun file => below [root] file.1) = [] := by
          refine List.filter_eq_nil_iff.mpr fun file member => ?_
          obtain ⟨first, more, path⟩ := plainFiles_below member
          simp [below, path, Ne.symm same]
        rw [none]
        simp [same]

theorem readDir_plain {tree : Dir} {root : String} (plain : Unlinked tree [root]) :
    readDir tree [root] = tree.subtree [root] := by
  unfold readDir
  cases rooted : directoryAt tree.kindAt maxLinks [root] with
  | some found =>
      obtain ⟨rfl, -⟩ := (directoryAt_of_unlinked rfl plain).mp rooted
      rfl
  | none =>
      cases there : tree.subtree [root] with
      | none => rfl
      | some children =>
          have dir := Entries.kindAt_eq_directory.mpr ⟨children, there⟩
          rw [(directoryAt_of_unlinked rfl plain).mpr ⟨rfl, dir⟩] at rooted
          cases rooted

/-- The walk of the two roots finds the packs that the list of files holds. -/
theorem runtimePacks_plain {tree : Dir} (distinct : tree.Distinct)
    (packs : Unlinked tree packsDir) (providers : Unlinked tree providersDir) :
    runtimePacks tree = (Bundle.runtimePacks (plainFiles [] tree)).map (·.1) := by
  have found : ∀ root, Bundle.collectGtpacks [root] (plainFiles [] tree) =
      ((tree.subtree [root]).map fun entries => (plainFiles [root] entries).filter
        fun file => hasExtension "gtpack" file.1).getD [] := by
    intro root
    have both : Bundle.collectGtpacks [root] (plainFiles [] tree) =
        ((plainFiles [] tree).filter fun file => below [root] file.1).filter
          fun file => hasExtension "gtpack" file.1 := by
      simp [Bundle.collectGtpacks, List.filter_filter, Bool.and_comm]
    rw [both, filter_below distinct]
    cases tree.subtree [root] <;> rfl
  unfold runtimePacks Bundle.runtimePacks collectProviderGtpacks Bundle.collectProviderGtpacks
  rw [packsDir, providersDir, readDir_plain packs, readDir_plain providers, found, found,
    List.map_append]
  congr 1
  · cases tree.subtree ["packs"] with
    | none => rfl
    | some entries => exact collectGtpacks_eq ["packs"] entries
  · cases tree.subtree ["providers"] with
    | none => rfl
    | some entries => exact collectDomains_eq entries

theorem mem_plainFiles {tree : Dir} (distinct : tree.Distinct) {dir path : RelPath}
    {content : Bytes} : (path, content) ∈ plainFiles dir tree ↔
      ∃ inner, path = dir ++ inner ∧ tree.kindAt inner = some (.file content) := by
  induction tree generalizing dir with
  | nil =>
      simp only [plainFiles_nil, List.not_mem_nil, false_iff]
      rintro ⟨inner, -, there⟩
      cases inner <;> cases there
  | file name old rest ih =>
      simp only [plainFiles_file, List.mem_cons, Prod.mk.injEq, ih distinct.2,
        Entries.file_of_file distinct.1]
      constructor
      · rintro (⟨rfl, rfl⟩ | ⟨inner, rfl, there⟩)
        · exact ⟨[name], rfl, .inl ⟨rfl, rfl⟩⟩
        · exact ⟨inner, rfl, .inr there⟩
      · rintro ⟨inner, rfl, ⟨rfl, rfl⟩ | there⟩
        · exact .inl ⟨rfl, rfl⟩
        · exact .inr ⟨inner, rfl, there⟩
  | symlink name target rest ih =>
      simp only [plainFiles_symlink, ih distinct.2, Entries.file_of_symlink distinct.1]
  | directory name children rest innerIH restIH =>
      simp only [plainFiles_directory, List.mem_append, innerIH distinct.2.1, restIH distinct.2.2,
        Entries.file_of_directory distinct.1]
      constructor
      · rintro (⟨inner, rfl, there⟩ | ⟨inner, rfl, there⟩)
        · exact ⟨name :: inner, by simp, .inl ⟨inner, rfl, there⟩⟩
        · exact ⟨inner, rfl, .inr there⟩
      · rintro ⟨path, rfl, ⟨inner, rfl, there⟩ | there⟩
        · exact .inl ⟨inner, by simp, there⟩
        · exact .inr ⟨path, rfl, there⟩

theorem mem_files {tree : Dir} (distinct : tree.Distinct) {path : RelPath} {content : Bytes} :
    (path, content) ∈ plainFiles [] tree ↔ tree.kindAt path = some (.file content) := by
  rw [mem_plainFiles distinct]
  exact ⟨fun ⟨_, same, there⟩ => same ▸ there, fun there => ⟨path, rfl, there⟩⟩

theorem kindAt_of_fileAt {disk : Disk} (plain : NoLinks disk) {path : RelPath} {content : Bytes}
    (read : fileAt disk path = some content) : disk path = some (.file content) := by
  unfold fileAt at read
  cases walked : resolve disk maxLinks path with
  | none =>
      rw [walked] at read
      cases read
  | some found =>
      rw [walked, plain.resolve_eq walked, Option.bind_some] at read
      split at read
      · rename_i there
        cases read
        exact there
      · cases read

theorem fileAt_of_kindAt {tree : Dir} (plain : NoLinks tree.kindAt) {path : RelPath}
    {content : Bytes} (there : tree.kindAt path = some (.file content)) :
    fileAt tree.kindAt path = some content := by
  have walked : resolve tree.kindAt maxLinks path = some path :=
    plain.resolve_there (fun above later whole => Entries.kindAt_prefix (whole ▸ there)) maxLinks
  unfold fileAt
  rw [walked, Option.bind_some, there]

/-- Lists of files at the same paths, whose contents agree. -/
theorem files_eq {left right : Tree} (paths : left.map (·.1) = right.map (·.1))
    (agree : ∀ file ∈ left, ∀ other ∈ right, file.1 = other.1 → file.2 = other.2) :
    left = right := by
  induction left generalizing right with
  | nil => exact (List.map_eq_nil_iff.mp paths.symm).symm
  | cons file rest ih =>
      cases right with
      | nil => cases paths
      | cons other others =>
          obtain ⟨path, later⟩ := List.cons.inj paths
          have same : file = other :=
            Prod.ext path (agree file (by simp) other (by simp) path)
          rw [same, ih later fun x inX y inY => agree x (List.mem_cons_of_mem _ inX) y
            (List.mem_cons_of_mem _ inY)]

/-- Both models read digests and manifests alike. -/
structure Reads (formats : PackFormats) (whole : Formats) : Prop where
  sha256 : whole.sha256 = formats.sha256
  webchat : ∀ packs, whole.needsWebchatUi packs =
    ((packs.map fun bytes => (formats.manifestFacts bytes).getD ⟨false, false⟩).foldl
      WebchatFacts.merge ⟨false, false⟩).needsUi

section Plain

variable {formats : PackFormats} {target : Target} {tree : Dir} {cached : Option Bytes}
variable {staged : StagedPacks} {bundle : Bytes}

theorem own_packs (distinct : tree.Distinct) (plain : NoLinks tree.kindAt) :
    runtimePacks tree = (Bundle.runtimePacks (plainFiles [] tree)).map (·.1) :=
  runtimePacks_plain distinct (plain _) (plain _)

theorem runtimePacks_subset {files : Tree} {file : RelPath × Bytes}
    (member : file ∈ Bundle.runtimePacks files) : file ∈ files := by
  rcases List.mem_append.mp member with app | provider
  · exact List.mem_of_mem_filter app
  · exact List.mem_of_mem_filter (List.mem_of_mem_filter provider)

theorem uiPack_plain (distinct : tree.Distinct) (plain : NoLinks tree.kindAt)
    (reads : Reads formats target.formats) :
    target.uiPack cached (Bundle.runtimePacks (plainFiles [] tree)) =
      uiPack formats tree cached := by
  have facts : (Bundle.runtimePacks (plainFiles [] tree)).map (fun file =>
      packWebchatFacts formats tree.kindAt file.1) =
        ((Bundle.runtimePacks (plainFiles [] tree)).map (·.2)).map fun bytes =>
          (formats.manifestFacts bytes).getD ⟨false, false⟩ := by
    rw [List.map_map]
    refine List.map_congr_left fun file member => ?_
    have there := (mem_files distinct).mp (runtimePacks_subset member)
    simp [packWebchatFacts, fileAt_of_kindAt plain there]
  unfold Target.uiPack uiPack needsWebchatUi
  rw [reads.webchat, ← facts, own_packs distinct plain, List.map_map]
  rfl

theorem withUiPack_paths {paths : List RelPath} {after : Dir} (distinct : tree.Distinct)
    (plain : NoLinks tree.kindAt) (added : withUiPack formats tree cached = .ok (after, paths)) :
    paths = (Bundle.runtimePacks (plainFiles [] tree) ++
      uiFile (uiPack formats tree cached)).map (·.1) := by
  rw [List.map_append, ← own_packs distinct plain]
  unfold withUiPack at added
  cases ui : uiPack formats tree cached with
  | none =>
      rw [ui] at added
      cases added
      simp [uiFile]
  | some bytes =>
      rw [ui] at added
      obtain ⟨made, -, same⟩ := bind_ok added
      cases pure_ok same
      rfl

/-- A page goes to a directory, so the packs' place is no file. -/
theorem packsDir_of_withUiPack {after : Dir} {paths : List RelPath} {bytes content : Bytes}
    (plain : NoLinks tree.kindAt) (ui : uiPack formats tree cached = some bytes)
    (added : withUiPack formats tree cached = .ok (after, paths)) :
    tree.kindAt packsDir ≠ some (.file content) := by
  intro there
  unfold withUiPack at added
  rw [ui] at added
  obtain ⟨staged, put, -⟩ := bind_ok added
  obtain ⟨made, created, -⟩ := bind_ok put
  unfold createPacksDir at created
  split at created
  · rename_i present
    obtain ⟨entries, read⟩ := Option.isSome_iff_exists.mp present
    obtain ⟨root, rooted, -⟩ := Option.bind_eq_some_iff.mp read
    rw [((directoryAt_of_unlinked rfl (plain _)).mp rooted).2] at there
    cases there
  · rw [there] at created
    cases created

theorem uiPackPath_own {files : Tree} {bytes : Bytes} (member : (uiPackPath, bytes) ∈ files) :
    (uiPackPath, bytes) ∈ Bundle.runtimePacks files := by
  have place : below packsDir uiPackPath = true ∧ hasExtension "gtpack" uiPackPath = true := by decide
  exact List.mem_append_left _ (List.mem_filter.mpr ⟨member, decide_eq_true place⟩)

/-- The files of the staged tree are those of the list that the page has joined. -/
theorem stagedDisk_files {ui : Option Bytes} (distinct : tree.Distinct)
    (fresh : ((Bundle.runtimePacks (plainFiles [] tree) ++ uiFile ui).map (·.1)).Nodup)
    (rooted : ∀ bytes content, ui = some bytes → tree.kindAt packsDir ≠ some (.file content))
    (file : RelPath × Bytes) :
    file ∈ plainFiles [] tree ++ uiFile ui ↔
      stagedDisk ui tree.kindAt file.1 = some (.file file.2) := by
  obtain ⟨path, content⟩ := file
  rw [List.mem_append, mem_files distinct]
  cases ui with
  | none => simp [uiFile, stagedDisk]
  | some bytes =>
      have apart : ∀ old, tree.kindAt uiPackPath ≠ some (.file old) := by
        intro old there
        have own := uiPackPath_own ((mem_files distinct).mpr there)
        rw [List.map_append, List.nodup_append] at fresh
        exact fresh.2.2 uiPackPath (List.mem_map_of_mem own) uiPackPath (by simp [uiFile]) rfl
      by_cases page : path = uiPackPath
      · subst page
        simp [uiFile, stagedDisk, apart, eq_comm]
      · by_cases dir : path = packsDir
        · subst dir
          simp [uiFile, stagedDisk, page, rooted bytes content rfl]
        · simp [uiFile, stagedDisk, page, dir]

/-- What a walk stages of a tree without links, a run stages of the list of its files: the
same lock, over a tree with the same files. -/
theorem stageInto_plain (distinct : tree.Distinct) (plain : NoLinks tree.kindAt)
    (reads : Reads formats target.formats)
    (unbundled : target.formats.unbundle bundle = some (plainFiles [] tree))
    (ok : stageInto formats target.revision.revisionId tree cached = .ok staged) :
    ∃ made, target.stagedTree bundle cached = .ok made ∧ target.lock made.packs = staged.lock ∧
      ∀ file, file ∈ made.tree ↔ file ∈ plainFiles [] staged.tree := by
  obtain ⟨_, manifest, later⟩ := bind_ok ok
  obtain ⟨_, nonempty, _⟩ := bind_ok later
  obtain ⟨packs, added, ids, contents, -, lock⟩ := stageInto_lock ok
  obtain ⟨stagedDistinct, disk, -⟩ :=
    withUiPack_ok distinct (fun _ => ⟨plain _, plain _, plain _⟩) added
  have listed := withUiPack_paths distinct plain added
  have fresh := ids.of_map fileStem
  rw [listed] at fresh
  have files := stagedDisk_files distinct fresh fun bytes content ui =>
    packsDir_of_withUiPack plain ui added
  have stagedPlain : NoLinks staged.tree.kindAt := by
    intro path destination
    rw [disk]
    unfold stagedDisk
    cases uiPack formats tree cached with
    | none => exact plain path destination
    | some bytes =>
        dsimp only
        split
        · simp
        · split
          · simp
          · exact plain path destination
  have pinned : packs = Bundle.runtimePacks (plainFiles [] tree) ++
      uiFile (uiPack formats tree cached) := by
    refine files_eq listed fun file member other made same => ?_
    have here := kindAt_of_fileAt stagedPlain (contents file member)
    have there : staged.tree.kindAt other.1 = some (.file other.2) := by
      rw [disk]
      refine (files other).mp ?_
      rcases List.mem_append.mp made with own | page
      · exact List.mem_append_left _ (runtimePacks_subset own)
      · exact List.mem_append_right _ page
    rw [same, there] at here
    exact (Kind.file.inj (Option.some.inj here)).symm
  refine ⟨⟨plainFiles [] tree ++ uiFile (uiPack formats tree cached), packs⟩, ?_, ?_, ?_⟩
  · have found : (plainFiles [] tree).any (·.1 = manifestPath) := by
      obtain ⟨content, read⟩ := Option.ne_none_iff_exists'.mp (guardThat_ok manifest)
      have there := (mem_files distinct).mpr (kindAt_of_fileAt plain read)
      exact List.any_eq_true.mpr ⟨_, there, by simp⟩
    have some_ : Bundle.runtimePacks (plainFiles [] tree) ≠ [] := by
      intro none
      refine guardThat_ok nonempty ?_
      rw [own_packs distinct plain, none]
      rfl
    have unique : UniquePackIds packs := by
      unfold UniquePackIds
      rwa [List.map_map] at ids
    unfold Target.stagedTree
    rw [unbundled]
    dsimp only
    rw [uiPack_plain distinct plain reads, ← pinned]
    simp [guardThat, found, some_, unique, bind, Except.bind, pure, Except.pure]
  · rw [lock]
    unfold Target.lock
    rw [reads.sha256]
  · intro file
    rw [files file, ← disk]
    exact (mem_files stagedDistinct).symm

end Plain

end GreenticDeployer.Bundle.Staging
