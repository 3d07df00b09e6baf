import GreenticDeployer.Bundle.Staging

/-!
# What the lock of a staged bundle lists

The walk finds the packs of the two roots, each once and whatever the order of the
directories. The lock lists what the walk finds in the tree as staged, so a second walk
agrees with it.
-/

set_option maxHeartbeats 200000

namespace GreenticDeployer.Bundle.Staging

open Spec Lib

/-- A regular file with the extension of packs. -/
def Gtpack (disk : Disk) (path : RelPath) : Prop :=
  hasExtension "gtpack" path = true ∧ ∃ content, disk path = some (.file content)

theorem hasExtension_append (extension : String) (dir : RelPath) {path : RelPath}
    (inside : path ≠ []) : hasExtension extension (dir ++ path) = hasExtension extension path := by
  unfold hasExtension
  rw [List.getLast?_append_of_ne_nil dir inside]

theorem hasExtension_cons (extension name : String) {path : RelPath} (inside : path ≠ []) :
    hasExtension extension (name :: path) = hasExtension extension path :=
  hasExtension_append extension [name] inside

theorem Gtpack.ne_nil {tree : Dir} {path : RelPath} (pack : Gtpack tree.kindAt path) :
    path ≠ [] := by
  rintro rfl
  obtain ⟨-, content, there⟩ := pack
  cases there

theorem mem_collectGtpacks {tree : Dir} (distinct : tree.Distinct) {dir path : RelPath} :
    path ∈ collectGtpacks dir tree ↔ ∃ inner, path = dir ++ inner ∧ Gtpack tree.kindAt inner := by
  induction tree generalizing dir with
  | nil =>
      simp only [collectGtpacks_nil, List.not_mem_nil, false_iff]
      rintro ⟨inner, -, -, content, there⟩
      cases inner <;> cases there
  | file name content rest ih =>
      have walked : path ∈ collectGtpacks dir (.file name content rest) ↔
          (hasExtension "gtpack" [name] = true ∧ path = dir ++ [name]) ∨
            path ∈ collectGtpacks dir rest := by
        by_cases pack : hasExtension "gtpack" [name] = true <;> simp [pack]
      simp only [walked, ih distinct.2, Gtpack, Entries.file_of_file distinct.1]
      constructor
      · rintro (⟨pack, rfl⟩ | ⟨inner, rfl, pack, found, there⟩)
        · exact ⟨[name], rfl, pack, content, .inl ⟨rfl, rfl⟩⟩
        · exact ⟨inner, rfl, pack, found, .inr there⟩
      · rintro ⟨inner, rfl, pack, found, ⟨rfl, rfl⟩ | there⟩
        · exact .inl ⟨pack, rfl⟩
        · exact .inr ⟨inner, rfl, pack, found, there⟩
  | symlink name target rest ih =>
      simp only [collectGtpacks_symlink, ih distinct.2, Gtpack, Entries.file_of_symlink distinct.1]
  | directory name children rest innerIH restIH =>
      simp only [collectGtpacks_directory, List.mem_append, innerIH distinct.2.1, restIH distinct.2.2,
        Gtpack, Entries.file_of_directory distinct.1]
      constructor
      · rintro (⟨inner, rfl, pack, found, there⟩ | ⟨inner, rfl, pack, found, there⟩)
        · have inside : inner ≠ [] := Gtpack.ne_nil ⟨pack, found, there⟩
          refine ⟨name :: inner, by simp, ?_, found, .inl ⟨inner, rfl, there⟩⟩
          rw [hasExtension_cons _ _ inside]
          exact pack
        · exact ⟨inner, rfl, pack, found, .inr there⟩
      · rintro ⟨path, rfl, pack, found, ⟨inner, rfl, there⟩ | there⟩
        · have inside : inner ≠ [] := by
            rintro rfl
            cases there
          rw [hasExtension_cons _ _ inside] at pack
          exact .inl ⟨inner, by simp, pack, found, there⟩
        · exact .inr ⟨path, rfl, pack, found, there⟩

def DomainPack (disk : Disk) (path : RelPath) : Prop :=
  ∃ domain inner, path = domain :: inner ∧ inner ≠ [] ∧ domain ∉ nonRuntimeProviderDomains ∧
    Gtpack disk path

theorem mem_collectDomains {tree : Dir} (distinct : tree.Distinct) {path : RelPath} :
    path ∈ collectDomains tree ↔
      ∃ inner, path = providersDir ++ inner ∧ DomainPack tree.kindAt inner := by
  induction tree with
  | nil =>
      simp only [collectDomains_nil, List.not_mem_nil, false_iff]
      rintro ⟨_, -, domain, inner, rfl, -, -, -, content, there⟩
      cases there
  | file name content rest ih =>
      simp only [collectDomains_file, ih distinct.2, DomainPack, Gtpack,
        Entries.file_of_file distinct.1]
      constructor
      · rintro ⟨path, rfl, domain, inner, same, inside, runtime, pack, found, there⟩
        exact ⟨path, rfl, domain, inner, same, inside, runtime, pack, found, .inr there⟩
      · rintro ⟨path, rfl, domain, inner, same, inside, runtime, pack, found, ⟨here, -⟩ | there⟩
        · subst here
          cases same
          exact absurd rfl inside
        · exact ⟨path, rfl, domain, inner, same, inside, runtime, pack, found, there⟩
  | symlink name target rest ih =>
      simp only [collectDomains_symlink, ih distinct.2, DomainPack, Gtpack,
        Entries.file_of_symlink distinct.1]
  | directory name children rest _ ih =>
      have walked : path ∈ collectDomains (.directory name children rest) ↔
          (name ∉ nonRuntimeProviderDomains ∧
            path ∈ collectGtpacks (providersDir ++ [name]) children) ∨
              path ∈ collectDomains rest := by
        by_cases other : name ∈ nonRuntimeProviderDomains <;> simp [other]
      simp only [walked, mem_collectGtpacks distinct.2.1, ih distinct.2.2, DomainPack, Gtpack,
        Entries.file_of_directory distinct.1]
      constructor
      · rintro (⟨runtime, inner, rfl, pack, found, there⟩ |
          ⟨path, rfl, domain, inner, same, inside, runtime, pack, found, there⟩)
        · have inside : inner ≠ [] := Gtpack.ne_nil ⟨pack, found, there⟩
          refine ⟨name :: inner, by simp, name, inner, rfl, inside, runtime, ?_, found,
            .inl ⟨inner, rfl, there⟩⟩
          rw [hasExtension_cons _ _ inside]
          exact pack
        · exact ⟨path, rfl, domain, inner, same, inside, runtime, pack, found, .inr there⟩
      · rintro ⟨path, rfl, domain, inner, same, inside, runtime, pack, found,
          ⟨below, rfl, there⟩ | there⟩
        · cases same
          rw [hasExtension_cons _ _ inside] at pack
          exact .inl ⟨runtime, inner, by simp, pack, found, there⟩
        · exact .inr ⟨path, rfl, domain, inner, same, inside, runtime, pack, found, there⟩

/-- A runtime pack: below the directory that `packs` leads to, or below a domain of the one
that `providers` leads to. -/
inductive RuntimePack (disk : Disk) : RelPath → Prop
  | app {root inner : RelPath} (rooted : directoryAt disk maxLinks packsDir = some root)
      (pack : Gtpack (fun path => disk (root ++ path)) inner) :
      RuntimePack disk (packsDir ++ inner)
  | provider {root inner : RelPath} (rooted : directoryAt disk maxLinks providersDir = some root)
      (pack : DomainPack (fun path => disk (root ++ path)) inner) :
      RuntimePack disk (providersDir ++ inner)

/-- What the roots hold, read through links. -/
theorem mem_readDir {tree : Dir} {path : RelPath} {collect : Dir → List RelPath}
    {found : RelPath} :
    found ∈ ((readDir tree path).map collect).getD [] ↔
      ∃ root entries, directoryAt tree.kindAt maxLinks path = some root ∧
        tree.subtree root = some entries ∧ found ∈ collect entries := by
  unfold readDir
  cases directoryAt tree.kindAt maxLinks path with
  | none => simp
  | some root => cases there : tree.subtree root <;> simp [there]

theorem directoryAt_eq_some {disk : Disk} {links : Nat} {path root : RelPath} :
    directoryAt disk links path = some root ↔
      resolve disk links path = some root ∧ disk root = some .directory := by
  unfold directoryAt
  rw [Option.filter_eq_some_iff]
  refine and_congr_right fun _ => ?_
  cases disk root with
  | none => simp
  | some kind => cases kind <;> simp

theorem mem_runtimePacks {tree : Dir} (distinct : tree.Distinct) {path : RelPath} :
    path ∈ runtimePacks tree ↔ RuntimePack tree.kindAt path := by
  simp only [runtimePacks, collectProviderGtpacks, List.mem_append, mem_readDir]
  constructor
  · rintro (⟨root, entries, rooted, below, member⟩ | ⟨root, entries, rooted, below, member⟩)
    · obtain ⟨inner, rfl, pack⟩ := (mem_collectGtpacks (distinct.subtree below)).mp member
      refine .app rooted ?_
      simpa only [Gtpack, Entries.kindAt_append below] using pack
    · obtain ⟨inner, rfl, pack⟩ := (mem_collectDomains (distinct.subtree below)).mp member
      refine .provider rooted ?_
      simpa only [DomainPack, Gtpack, Entries.kindAt_append below] using pack
  · rintro (⟨rooted, pack⟩ | ⟨rooted, pack⟩)
    · obtain ⟨entries, below⟩ := Entries.kindAt_eq_directory.mp (directoryAt_eq_some.mp rooted).2
      refine .inl ⟨_, entries, rooted, below,
        (mem_collectGtpacks (distinct.subtree below)).mpr ⟨_, rfl, ?_⟩⟩
      simpa only [Gtpack, Entries.kindAt_append below] using pack
    · obtain ⟨entries, below⟩ := Entries.kindAt_eq_directory.mp (directoryAt_eq_some.mp rooted).2
      refine .inr ⟨_, entries, rooted, below,
        (mem_collectDomains (distinct.subtree below)).mpr ⟨_, rfl, ?_⟩⟩
      simpa only [DomainPack, Gtpack, Entries.kindAt_append below] using pack

def Unlinked (tree : Dir) (path : RelPath) : Prop :=
  ∀ target, tree.kindAt path ≠ some (.symlink target)

/-- Where a page is added, the places it is read from are no links. -/
def PlainUi (formats : PackFormats) (tree : Dir) (cached : Option Bytes) : Prop :=
  (uiPack formats tree cached).isSome →
    Unlinked tree packsDir ∧ Unlinked tree providersDir ∧ Unlinked tree uiPackPath

theorem directoryAt_of_unlinked {tree : Dir} {path : RelPath} (single : path.length = 1)
    (plain : Unlinked tree path) {root : RelPath} :
    directoryAt tree.kindAt maxLinks path = some root ↔
      root = path ∧ tree.kindAt path = some .directory := by
  obtain ⟨name, rfl⟩ := List.length_eq_one_iff.mp single
  rw [directoryAt_eq_some, resolve_name plain]
  constructor
  · rintro ⟨same, there⟩
    cases same
    exact ⟨rfl, there⟩
  · rintro ⟨rfl, there⟩
    exact ⟨rfl, there⟩

theorem createPacksDir_ok {tree made : Dir} (distinct : tree.Distinct)
    (plain : Unlinked tree packsDir) (ok : createPacksDir tree = .ok made) :
    made.Distinct ∧ ∀ path, made.kindAt path =
      if path = packsDir then some .directory else tree.kindAt path := by
  unfold createPacksDir at ok
  split at ok
  · rename_i present
    cases ok
    obtain ⟨entries, read⟩ := Option.isSome_iff_exists.mp present
    obtain ⟨root, rooted, -⟩ := Option.bind_eq_some_iff.mp read
    have there := ((directoryAt_of_unlinked rfl plain).mp rooted).2
    refine ⟨distinct, fun path => ?_⟩
    split
    · rename_i same
      rw [same]
      exact there
    · rfl
  · split at ok
    · rename_i absent
      cases ok
      exact ⟨distinct.makeDirectory (Entries.not_mem_names_of_kindAt absent),
        Entries.kindAt_makeDirectory absent⟩
    · cases ok

theorem resolve_uiPackPath {disk : Disk} (dir : disk packsDir = some .directory)
    (plain : ∀ target, disk uiPackPath ≠ some (.symlink target)) (links : Nat) :
    resolve disk links uiPackPath = some uiPackPath := by
  refine resolve_of_resolveFrom (fun follow => ?_) links
  calc resolveFrom disk follow [] uiPackPath
      = resolveFrom disk follow packsDir [webchatUiPackFile] := by
        have first : disk ([] ++ ["packs"]) = some .directory := dir
        rw [uiPackPath, resolveFrom, first]
        rfl
    _ = some uiPackPath := resolveFrom_last plain follow

theorem stageUiPack_ok {tree staged : Dir} {bytes : Bytes} (distinct : tree.Distinct)
    (packs : Unlinked tree packsDir) (place : Unlinked tree uiPackPath)
    (ok : stageUiPack tree bytes = .ok staged) :
    staged.Distinct ∧ ∀ path, staged.kindAt path =
      if path = uiPackPath then some (.file bytes)
      else if path = packsDir then some .directory
      else tree.kindAt path := by
  obtain ⟨made, created, ok⟩ := bind_ok ok
  obtain ⟨madeDistinct, kinds⟩ := createPacksDir_ok distinct packs created
  have dir : made.kindAt packsDir = some .directory := by rw [kinds, if_pos rfl]
  have same : made.kindAt uiPackPath = tree.kindAt uiPackPath := by
    rw [kinds, if_neg (by decide)]
  have resolved := resolve_uiPackPath dir (fun target => same ▸ place target) maxLinks
  unfold copyUiPack at ok
  rw [resolved] at ok
  simp only at ok
  split at ok
  · rename_i writable
    cases ok
    refine ⟨madeDistinct.put bytes uiPackPath, fun path => ?_⟩
    rw [Entries.kindAt_put writable, kinds]
  · cases ok

theorem runtimePack_with_ui {tree staged : Dir} {bytes : Bytes} (packs : Unlinked tree packsDir)
    (providers : Unlinked tree providersDir)
    (kinds : ∀ path, staged.kindAt path =
      if path = uiPackPath then some (.file bytes)
      else if path = packsDir then some .directory
      else tree.kindAt path) (path : RelPath) :
    RuntimePack staged.kindAt path ↔ RuntimePack tree.kindAt path ∨ path = uiPackPath := by
  have packs' : Unlinked staged packsDir := by
    intro target there
    rw [kinds, if_neg (by decide), if_pos rfl] at there
    cases there
  have sameRoot : staged.kindAt providersDir = tree.kindAt providersDir := by
    rw [kinds, if_neg (by decide), if_neg (by decide)]
  have providers' : Unlinked staged providersDir := fun target => sameRoot ▸ providers target
  have sameBelow : ∀ inner, staged.kindAt (providersDir ++ inner) =
      tree.kindAt (providersDir ++ inner) := by
    intro inner
    rw [kinds, if_neg (by simp [providersDir, uiPackPath]),
      if_neg (by simp [providersDir, packsDir])]
  have made : staged.kindAt packsDir = some .directory := by
    rw [kinds, if_neg (by decide), if_pos rfl]
  constructor
  · rintro (@⟨root, inner, rooted, extension, content, there⟩ | @⟨root, inner, rooted, pack⟩)
    · obtain ⟨rfl, -⟩ := (directoryAt_of_unlinked rfl packs').mp rooted
      simp only [kinds] at there
      split at there
      · rename_i page
        exact .inr page
      split at there
      · cases there
      rename_i inside
      cases inner with
      | nil => exact absurd rfl inside
      | cons first more =>
          have dir : tree.kindAt packsDir = some .directory := Entries.directory_of_below there
          exact .inl (.app ((directoryAt_of_unlinked rfl packs).mpr ⟨rfl, dir⟩)
            ⟨extension, content, there⟩)
    · obtain ⟨rfl, dir⟩ := (directoryAt_of_unlinked rfl providers').mp rooted
      rw [sameRoot] at dir
      refine .inl (.provider ((directoryAt_of_unlinked rfl providers).mpr ⟨rfl, dir⟩) ?_)
      simpa only [DomainPack, Gtpack, sameBelow] using pack
  · rintro ((@⟨root, inner, rooted, extension, content, there⟩ | @⟨root, inner, rooted, pack⟩) |
      rfl)
    · obtain ⟨rfl, dir⟩ := (directoryAt_of_unlinked rfl packs).mp rooted
      refine .app ((directoryAt_of_unlinked rfl packs').mpr ⟨rfl, made⟩) ⟨extension, ?_⟩
      simp only [kinds]
      split
      · exact ⟨bytes, rfl⟩
      split
      · rename_i same
        simp only [same] at there
        exact nomatch dir.symm.trans there
      · exact ⟨content, there⟩
    · obtain ⟨rfl, dir⟩ := (directoryAt_of_unlinked rfl providers).mp rooted
      rw [← sameRoot] at dir
      refine .provider ((directoryAt_of_unlinked rfl providers').mpr ⟨rfl, dir⟩) ?_
      simpa only [DomainPack, Gtpack, sameBelow] using pack
    · have page : staged.kindAt uiPackPath = some (.file bytes) := by rw [kinds, if_pos rfl]
      exact @RuntimePack.app _ packsDir [webchatUiPackFile]
        ((directoryAt_of_unlinked rfl packs').mpr ⟨rfl, made⟩) ⟨by decide, bytes, page⟩

/-- What staging makes of a disk, given the page that is added. -/
def stagedDisk (ui : Option Bytes) (disk : Disk) : Disk := fun path =>
  match ui with
  | none => disk path
  | some bytes =>
    if path = uiPackPath then some (.file bytes)
    else if path = packsDir then some .directory
    else disk path

theorem withUiPack_ok {formats : PackFormats} {tree staged : Dir} {cached : Option Bytes}
    {paths : List RelPath} (distinct : tree.Distinct) (plain : PlainUi formats tree cached)
    (ok : withUiPack formats tree cached = .ok (staged, paths)) :
    staged.Distinct ∧ staged.kindAt = stagedDisk (uiPack formats tree cached) tree.kindAt ∧
      ∀ path, path ∈ paths ↔ RuntimePack staged.kindAt path := by
  unfold withUiPack at ok
  unfold PlainUi at plain
  cases ui : uiPack formats tree cached with
  | none =>
      rw [ui] at ok
      cases ok
      exact ⟨distinct, rfl, fun path => mem_runtimePacks distinct⟩
  | some bytes =>
      rw [ui] at ok plain
      obtain ⟨packs, providers, place⟩ := plain rfl
      obtain ⟨made, added, same⟩ := bind_ok ok
      cases pure_ok same
      obtain ⟨stagedDistinct, kinds⟩ := stageUiPack_ok distinct packs place added
      refine ⟨stagedDistinct, funext kinds, fun path => ?_⟩
      rw [runtimePack_with_ui packs providers kinds, List.mem_append, List.mem_singleton,
        mem_runtimePacks distinct]

theorem readPacks_ok {disk : Disk} {paths : List RelPath} {packs : Tree}
    (ok : paths.mapM (readPack disk) = .ok packs) :
    packs.map (·.1) = paths ∧ ∀ file ∈ packs, fileAt disk file.1 = some file.2 := by
  induction paths generalizing packs with
  | nil =>
      cases pure_ok ok
      exact ⟨rfl, by simp⟩
  | cons head rest ih =>
      rw [List.mapM_cons] at ok
      obtain ⟨first, read, ok⟩ := bind_ok ok
      obtain ⟨others, later, same⟩ := bind_ok ok
      cases pure_ok same
      obtain ⟨paths, contents⟩ := ih later
      unfold readPack at read
      cases there : fileAt disk head with
      | none =>
          rw [there] at read
          cases read
      | some content =>
          rw [there] at read
          cases read
          exact ⟨congrArg (head :: ·) paths, List.forall_mem_cons.mpr ⟨there, contents⟩⟩

def bundlePath (id : RevisionId) (inner : RelPath) : RelPath := revDirRel id ++ "bundle" :: inner

theorem bundlePath_inj {id : RevisionId} {left right : RelPath}
    (same : bundlePath id left = bundlePath id right) : left = right :=
  (List.cons.inj (List.append_cancel_left same)).2

def lockedPack (formats : PackFormats) (id : RevisionId) (file : RelPath × Bytes) : LockedPack :=
  ⟨⟨fileStem file.1⟩, bundlePath id file.1, formats.sha256 file.2⟩

/-- The lock is the packs' entries, sorted by path. -/
theorem pin_packs (formats : PackFormats) (id : RevisionId) (packs : Tree) :
    (pin id packs (packs.map fun file => formats.sha256 file.2)).packs.Perm
        (packs.map (lockedPack formats id)) ∧
      (pin id packs (packs.map fun file => formats.sha256 file.2)).packs.Pairwise
        fun left right => left.path ≤ right.path := by
  have entries : ((packs.zip (packs.map fun file => formats.sha256 file.2)).map fun found =>
      (⟨⟨fileStem found.1.1⟩, revDirRel id ++ "bundle" :: found.1.1, found.2⟩ : LockedPack)) =
        packs.map (lockedPack formats id) := by
    induction packs with
    | nil => rfl
    | cons head rest ih => exact congrArg (lockedPack formats id head :: ·) ih
  have pinned : (pin id packs (packs.map fun file => formats.sha256 file.2)).packs =
      (packs.map (lockedPack formats id)).mergeSort
        fun left right => decide (left.path ≤ right.path) :=
    congrArg (List.mergeSort · _) entries
  rw [pinned]
  refine ⟨List.mergeSort_perm _ _, ?_⟩
  have sorted := @List.pairwise_mergeSort _
    (fun left right : LockedPack => decide (left.path ≤ right.path))
    (fun a b c first second => decide_eq_true
      ((of_decide_eq_true first).trans (of_decide_eq_true second)))
    (fun a b => by simpa using le_total a.path b.path) (packs.map (lockedPack formats id))
  exact sorted.imp fun ordered => of_decide_eq_true ordered

structure Staged (formats : PackFormats) (id : RevisionId) (tree : Dir) (cached : Option Bytes)
    (staged : StagedPacks) (packs : Tree) : Prop where
  distinct : staged.tree.Distinct
  disk : staged.tree.kindAt = stagedDisk (uiPack formats tree cached) tree.kindAt
  lockRef : staged.lockRef = packListLockRef id
  lock : staged.lock = pin id packs (packs.map fun file => formats.sha256 file.2)
  found : ∀ path, path ∈ packs.map (·.1) ↔ RuntimePack staged.tree.kindAt path
  contents : ∀ file ∈ packs, fileAt staged.tree.kindAt file.1 = some file.2
  ids : (packs.map fun file => fileStem file.1).Nodup

theorem stageInto_lock {formats : PackFormats} {id : RevisionId} {tree : Dir}
    {cached : Option Bytes} {staged : StagedPacks}
    (ok : stageInto formats id tree cached = .ok staged) :
    ∃ packs : Tree, withUiPack formats tree cached = .ok (staged.tree, packs.map (·.1)) ∧
      ((packs.map (·.1)).map fileStem).Nodup ∧
      (∀ file ∈ packs, fileAt staged.tree.kindAt file.1 = some file.2) ∧
      staged.lockRef = packListLockRef id ∧
      staged.lock = pin id packs (packs.map fun file => formats.sha256 file.2) := by
  obtain ⟨_, -, ok⟩ := bind_ok ok
  obtain ⟨_, -, ok⟩ := bind_ok ok
  obtain ⟨⟨made, paths⟩, added, ok⟩ := bind_ok ok
  obtain ⟨_, unique, ok⟩ := bind_ok ok
  obtain ⟨packs, read, same⟩ := bind_ok ok
  cases pure_ok same
  obtain ⟨rfl, contents⟩ := readPacks_ok read
  have ids : ((packs.map (·.1)).map fileStem).Nodup := by
    unfold guardThat at unique
    split at unique
    · assumption
    · cases unique
  exact ⟨packs, added, ids, contents, rfl, rfl⟩

theorem stageInto_ok {formats : PackFormats} {id : RevisionId} {tree : Dir}
    {cached : Option Bytes} {staged : StagedPacks} (distinct : tree.Distinct)
    (plain : PlainUi formats tree cached)
    (ok : stageInto formats id tree cached = .ok staged) :
    ∃ packs, Staged formats id tree cached staged packs := by
  obtain ⟨packs, added, ids, contents, lockRef, lock⟩ := stageInto_lock ok
  obtain ⟨madeDistinct, disk, found⟩ := withUiPack_ok distinct plain added
  rw [List.map_map] at ids
  exact ⟨packs, madeDistinct, disk, lockRef, lock, found, contents, ids⟩

theorem pin_paths (formats : PackFormats) (id : RevisionId) (packs : Tree) :
    ((pin id packs (packs.map fun file => formats.sha256 file.2)).packs.map (·.path)).Perm
      ((packs.map (·.1)).map (bundlePath id)) := by
  rw [List.map_map]
  simpa only [List.map_map, Function.comp_def, lockedPack] using
    (pin_packs formats id packs).1.map (·.path)

/-- The lock of a disk: the runtime packs, each once and in the order of the paths, under
different ids. -/
structure Lists (disk : Disk) (id : RevisionId) (lock : PackListLock) : Prop where
  own : lock.revisionId = id
  exact : ∀ path, path ∈ lock.packs.map (·.path) ↔
    ∃ inner, path = bundlePath id inner ∧ RuntimePack disk inner
  ordered : (lock.packs.map (·.path)).Pairwise (· < ·)
  ids : (lock.packs.map (·.packId)).Nodup

section Staged

variable {formats : PackFormats} {id : RevisionId} {tree : Dir} {cached : Option Bytes}
variable {staged : StagedPacks} {packs : Tree}

theorem Staged.lists (done : Staged formats id tree cached staged packs) :
    Lists staged.tree.kindAt id staged.lock := by
  obtain ⟨perm, sorted⟩ := pin_packs formats id packs
  rw [← done.lock] at perm sorted
  have paths : (staged.lock.packs.map (·.path)).Perm
      ((packs.map (·.1)).map (bundlePath id)) := done.lock ▸ pin_paths formats id packs
  have ids : (staged.lock.packs.map (·.packId)).Nodup := by
    have stems := done.ids.map (f := PackId.mk) fun a b same => congrArg (·.asStr) same
    rw [List.map_map] at stems
    have named := perm.map (·.packId)
    rw [List.map_map] at named
    exact named.nodup_iff.mpr stems
  have once : (staged.lock.packs.map (·.path)).Nodup := by
    have stems : (packs.map (·.1)).Nodup := by
      refine List.Nodup.of_map fileStem ?_
      rw [List.map_map]
      exact done.ids
    exact paths.nodup_iff.mpr (stems.map fun a b same => bundlePath_inj same)
  refine ⟨?_, ?_, ?_, ids⟩
  · rw [done.lock]
    rfl
  · intro path
    rw [paths.mem_iff, List.mem_map]
    simp only [done.found]
    exact ⟨fun ⟨inner, pack, same⟩ => ⟨inner, same.symm, pack⟩,
      fun ⟨inner, same, pack⟩ => ⟨inner, pack, same.symm⟩⟩
  · have increasing : (staged.lock.packs.map (·.path)).Pairwise (· ≤ ·) :=
      List.pairwise_map.mpr sorted
    exact (increasing.and once).imp fun both => lt_of_le_of_ne both.1 both.2

end Staged

theorem packListLockRef_ne (id : RevisionId) : packListLockRef id ≠ "" := by
  intro same
  have lengths := congrArg String.length same
  simp [packListLockRef] at lengths

theorem packListIsComplete_iff {id : RevisionId} {lock : PackListLock} {tree : Dir}
    {lockAt : PathBuf → Option PackListLock} {lockRef : PathBuf} (named : lockRef ≠ "")
    (there : lockAt lockRef = some lock) (own : lock.revisionId = id) :
    packListIsComplete lockAt (some tree) id lockRef = true ↔
      ∀ inner ∈ runtimePacks tree, bundlePath id inner ∈ lock.packs.map (·.path) := by
  unfold packListIsComplete
  rw [if_neg named, there]
  simp only [own, ne_eq, not_true_eq_false, if_false, List.all_eq_true, List.contains_iff_mem]
  rfl

theorem packListIsComplete_eq {disk : Disk} {id : RevisionId} {lock : PackListLock}
    {again : Dir} {lockAt : PathBuf → Option PackListLock} {lockRef : PathBuf}
    (named : lockRef ≠ "") (there : lockAt lockRef = some lock) (own : lock.revisionId = id)
    (distinct : again.Distinct) (same : again.kindAt = disk) :
    packListIsComplete lockAt (some again) id lockRef = true ↔
      ∀ inner, RuntimePack disk inner → bundlePath id inner ∈ lock.packs.map (·.path) := by
  rw [packListIsComplete_iff named there own]
  simp only [mem_runtimePacks distinct, same]

theorem foldl_merge (facts : List WebchatFacts) (start : WebchatFacts) :
    facts.foldl WebchatFacts.merge start =
      ⟨start.servesUi || facts.any (·.servesUi),
        start.servesProvider || facts.any (·.servesProvider)⟩ := by
  induction facts generalizing start with
  | nil => simp
  | cons head rest ih => simp [ih, WebchatFacts.merge, Bool.or_assoc]

theorem any_of_same_members {α : Type} {xs ys : List α} (same : ∀ x, x ∈ xs ↔ x ∈ ys)
    (p : α → Bool) : xs.any p = ys.any p := by
  rw [Bool.eq_iff_iff, List.any_eq_true, List.any_eq_true]
  simp only [same]

/-- Whether a page is added does not depend on the order. -/
theorem uiPack_of_same {formats : PackFormats} {tree tree' : Dir} (distinct : tree.Distinct)
    (distinct' : tree'.Distinct) (same : tree'.kindAt = tree.kindAt) (cached : Option Bytes) :
    uiPack formats tree' cached = uiPack formats tree cached := by
  have members : ∀ path, path ∈ runtimePacks tree' ↔ path ∈ runtimePacks tree := fun path => by
    rw [mem_runtimePacks distinct, mem_runtimePacks distinct', same]
  unfold uiPack needsWebchatUi
  simp only [foldl_merge, List.any_map, same,
    any_of_same_members members]

theorem Staged.mem_packs {formats : PackFormats} {id : RevisionId} {tree : Dir}
    {cached : Option Bytes} {staged : StagedPacks} {packs : Tree}
    (done : Staged formats id tree cached staged packs) (file : RelPath × Bytes) :
    file ∈ packs ↔ RuntimePack staged.tree.kindAt file.1 ∧
      fileAt staged.tree.kindAt file.1 = some file.2 := by
  constructor
  · intro member
    exact ⟨(done.found file.1).mp (List.mem_map_of_mem member), done.contents file member⟩
  · rintro ⟨pack, content⟩
    obtain ⟨other, member, path⟩ := List.mem_map.mp ((done.found file.1).mpr pack)
    have read := done.contents other member
    rw [path, content] at read
    have same : other = file := Prod.ext path (Option.some.inj read).symm
    exact same ▸ member

/-- Two reads of one disk are pinned alike. -/
theorem Staged.lock_of_same {formats : PackFormats} {id : RevisionId} {tree tree' : Dir}
    {cached : Option Bytes} {staged staged' : StagedPacks} {packs packs' : Tree}
    (done : Staged formats id tree cached staged packs)
    (done' : Staged formats id tree' cached staged' packs')
    (same : staged'.tree.kindAt = staged.tree.kindAt) : staged'.lock = staged.lock := by
  have members : ∀ file, file ∈ packs' ↔ file ∈ packs := fun file => by
    rw [done.mem_packs, done'.mem_packs, same]
  have reordered : packs'.Perm packs :=
    (List.perm_ext_iff_of_nodup (List.Nodup.of_map _ done'.ids)
      (List.Nodup.of_map _ done.ids)).mpr members
  obtain ⟨perm, sorted⟩ := pin_packs formats id packs
  obtain ⟨perm', sorted'⟩ := pin_packs formats id packs'
  rw [← done.lock] at perm sorted
  rw [← done'.lock] at perm' sorted'
  have entries : staged'.lock.packs.Perm staged.lock.packs :=
    perm'.trans ((reordered.map _).trans perm.symm)
  have once : (staged.lock.packs.map (·.path)).Nodup :=
    done.lists.ordered.imp fun increasing => ne_of_lt increasing
  have sameEntries : staged'.lock.packs = staged.lock.packs := by
    refine entries.eq_of_pairwise (fun a b inA inB first second => ?_) sorted' sorted
    exact List.inj_on_of_nodup_map once (entries.mem_iff.mp inA) inB (le_antisymm first second)
  have own := done.lists.own
  have own' := done'.lists.own
  have schema : staged'.lock.schema = staged.lock.schema := by
    rw [done.lock, done'.lock]
    rfl
  calc staged'.lock = ⟨staged'.lock.schema, staged'.lock.revisionId, staged'.lock.packs⟩ := rfl
    _ = ⟨staged.lock.schema, staged.lock.revisionId, staged.lock.packs⟩ := by
      rw [schema, own, own', sameEntries]

/-- Whatever the order of the directories, a staged lock lists the runtime packs of the tree
as staged, and a later walk calls it complete, but no lock with an entry less. Where a page
is added, the places it is read from must be no links: the copy would follow them. -/
theorem staged_lock_complete {formats : PackFormats} {id : RevisionId} {tree : Dir}
    {cached : Option Bytes} {staged : StagedPacks} (distinct : tree.Distinct)
    (plain : PlainUi formats tree cached) (ok : stageInto formats id tree cached = .ok staged) :
    Lists staged.tree.kindAt id staged.lock ∧
    (∀ tree' staged', tree'.Distinct → tree'.kindAt = tree.kindAt →
      stageInto formats id tree' cached = .ok staged' → staged'.lock = staged.lock) ∧
    ∀ again lockAt, again.Distinct → again.kindAt = staged.tree.kindAt →
      (lockAt staged.lockRef = some staged.lock →
        packListIsComplete lockAt (some again) id staged.lockRef = true) ∧
      ∀ before entry after, staged.lock.packs = before ++ entry :: after →
        lockAt staged.lockRef = some { staged.lock with packs := before ++ after } →
        packListIsComplete lockAt (some again) id staged.lockRef = false := by
  obtain ⟨packs, done⟩ := stageInto_ok distinct plain ok
  have lists := done.lists
  refine ⟨lists, ?_, ?_⟩
  · intro tree' staged' distinct' same ok'
    have ui := @uiPack_of_same formats _ _ distinct distinct' same cached
    have plain' : PlainUi formats tree' cached := by
      unfold PlainUi Unlinked
      rw [ui, same]
      exact plain
    obtain ⟨packs', done'⟩ := stageInto_ok distinct' plain' ok'
    refine done.lock_of_same done' ?_
    rw [done.disk, done'.disk, ui, same]
  intro again lockAt againDistinct same
  have named : staged.lockRef ≠ "" := done.lockRef ▸ packListLockRef_ne id
  constructor
  · intro there
    rw [packListIsComplete_eq named there lists.own againDistinct same]
    exact fun inner pack => (lists.exact _).mpr ⟨inner, rfl, pack⟩
  · intro before entry after split_ there
    rw [← Bool.not_eq_true, packListIsComplete_eq named there lists.own againDistinct same]
    intro complete
    obtain ⟨inner, path, pack⟩ := (lists.exact entry.path).mp (by rw [split_]; simp)
    have listed := complete inner pack
    rw [← path, List.map_append] at listed
    have once : (staged.lock.packs.map (·.path)).Nodup :=
      lists.ordered.imp fun increasing => ne_of_lt increasing
    rw [split_, List.map_append, List.map_cons, List.nodup_middle, List.nodup_cons] at once
    exact once.1 listed

/-- A bundle whose only webchat pack is a provider without a page. -/
def webchatBundle : Dir :=
  .file "bundle-manifest.json" "a" <|
    .directory "providers"
      (.directory "messaging" (.file "webchat.gtpack" "b" .nil)
        (.directory "deployer" (.file "aws.gtpack" "c" .nil) .nil))
      (.directory "packs" (.file "support.gtpack" "d" .nil) .nil)

def webchatFormats : PackFormats where
  sha256 := id
  manifestFacts := fun bytes => if bytes = "b" then some ⟨false, true⟩ else none

/-- With the page added, the lock has three packs. -/
theorem staged_lock_of_webchat :
    ∃ staged, stageInto webchatFormats ⟨7⟩ webchatBundle (some "e") = .ok staged ∧
      Lists staged.tree.kindAt ⟨7⟩ staged.lock ∧
      ∀ inner, bundlePath ⟨7⟩ inner ∈ staged.lock.packs.map (·.path) ↔
        inner ∈ [["packs", "support.gtpack"], uiPackPath,
          ["providers", "messaging", "webchat.gtpack"]] := by
  have distinct : webchatBundle.Distinct := by
    simp [webchatBundle, Entries.Distinct]
  have plain : PlainUi webchatFormats webchatBundle (some "e") := by
    intro _
    have packs : webchatBundle.kindAt packsDir = some .directory := by decide
    have providers : webchatBundle.kindAt providersDir = some .directory := by decide
    have place : webchatBundle.kindAt uiPackPath = none := by decide
    unfold Unlinked
    rw [packs, providers, place]
    simp
  cases ok : stageInto webchatFormats ⟨7⟩ webchatBundle (some "e") with
  | error failed =>
      have staged : (stageInto webchatFormats ⟨7⟩ webchatBundle (some "e")).isOk = true := by
        decide
      rw [ok] at staged
      cases staged
  | ok staged =>
      have lists := (staged_lock_complete distinct plain ok).1
      obtain ⟨packs, done⟩ := stageInto_ok distinct plain ok
      have found : (stageInto webchatFormats ⟨7⟩ webchatBundle (some "e")).toOption.map
          (fun staged => runtimePacks staged.tree) = some [["packs", "support.gtpack"],
            uiPackPath, ["providers", "messaging", "webchat.gtpack"]] := by
        decide
      rw [ok] at found
      refine ⟨staged, rfl, lists, fun inner => ?_⟩
      rw [lists.exact, ← Option.some.inj found, mem_runtimePacks done.distinct]
      constructor
      · intro listed
        obtain ⟨other, same, pack⟩ := listed
        exact bundlePath_inj same ▸ pack
      · exact fun pack => ⟨inner, rfl, pack⟩

def linkedBundle : Dir :=
  .file "bundle-manifest.json" "a" <|
    .directory "packs"
      (.file "webchat.gtpack" "b"
        (.symlink webchatUiPackFile ["packs", "page.gtpack"] .nil)) .nil

theorem incomplete_of_unpinned {formats : PackFormats} {id : RevisionId} {tree : Dir}
    {cached : Option Bytes} {staged : StagedPacks} {paths : List RelPath} {inner : RelPath}
    (ok : stageInto formats id tree cached = .ok staged)
    (pinned : (withUiPack formats tree cached).toOption.map (·.2) = some paths)
    (walked : inner ∈ runtimePacks staged.tree) (left : inner ∉ paths) :
    bundlePath id inner ∉ staged.lock.packs.map (·.path) ∧
      packListIsComplete (fun _ => some staged.lock) (some staged.tree) id staged.lockRef =
        false := by
  obtain ⟨packs, added, -, -, lockRef, lock⟩ := stageInto_lock ok
  rw [added] at pinned
  have listed : packs.map (·.1) = paths := Option.some.inj pinned
  have unlisted : bundlePath id inner ∉ staged.lock.packs.map (·.path) := by
    rw [lock, (pin_paths formats id packs).mem_iff, listed, List.mem_map]
    rintro ⟨other, member, same⟩
    exact left (bundlePath_inj same ▸ member)
  refine ⟨unlisted, ?_⟩
  rw [← Bool.not_eq_true, packListIsComplete_iff (lockRef ▸ packListLockRef_ne id) rfl
    (by rw [lock]; rfl)]
  exact fun complete => unlisted (complete inner walked)

/-- The page is copied through the link, into a pack that the lock leaves out. -/
theorem page_through_link :
    linkedBundle.Distinct ∧
    ∃ staged, stageInto webchatFormats ⟨7⟩ linkedBundle (some "e") = .ok staged ∧
      runtimePacks staged.tree = [["packs", "webchat.gtpack"], ["packs", "page.gtpack"]] ∧
      bundlePath ⟨7⟩ ["packs", "page.gtpack"] ∉ staged.lock.packs.map (·.path) ∧
      packListIsComplete (fun _ => some staged.lock) (some staged.tree) ⟨7⟩ staged.lockRef =
        false := by
  refine ⟨by simp [linkedBundle, Entries.Distinct, webchatUiPackFile], ?_⟩
  cases ok : stageInto webchatFormats ⟨7⟩ linkedBundle (some "e") with
  | error failed =>
      have staged : (stageInto webchatFormats ⟨7⟩ linkedBundle (some "e")).isOk = true := by
        decide
      rw [ok] at staged
      cases staged
  | ok staged =>
      have walked : (stageInto webchatFormats ⟨7⟩ linkedBundle (some "e")).toOption.map
          (fun staged => runtimePacks staged.tree) =
            some [["packs", "webchat.gtpack"], ["packs", "page.gtpack"]] := by
        decide
      rw [ok] at walked
      have found : runtimePacks staged.tree =
          [["packs", "webchat.gtpack"], ["packs", "page.gtpack"]] := Option.some.inj walked
      have pinned : (withUiPack webchatFormats linkedBundle (some "e")).toOption.map (·.2) =
          some [["packs", "webchat.gtpack"], uiPackPath] := by
        decide
      have listed : ["packs", "page.gtpack"] ∈ runtimePacks staged.tree := by
        rw [found]
        simp
      obtain ⟨unlisted, incomplete⟩ := incomplete_of_unpinned ok pinned listed (by decide)
      exact ⟨staged, rfl, found, unlisted, incomplete⟩

/-- The packs' directory is a link into a domain of the providers. -/
def packsLinked : Dir :=
  .file "bundle-manifest.json" "a" <|
    .directory "providers"
      (.directory "messaging" (.file "webchat.gtpack" "b" .nil) (.directory "pages" .nil .nil))
      (.symlink "packs" ["providers", "pages"] .nil)

/-- The directory of the providers is a link to the whole bundle. -/
def providersLinked : Dir :=
  .file "bundle-manifest.json" "a" <|
    .directory "messaging" (.file "webchat.gtpack" "b" .nil) <|
      .directory "packs" .nil (.symlink "providers" [] .nil)

theorem incomplete_with_page {tree : Dir} (inner : RelPath)
    (walked : (stageInto webchatFormats ⟨7⟩ tree (some "e")).toOption.any
      (fun staged => decide (inner ∈ runtimePacks staged.tree)) = true)
    (pinned : (withUiPack webchatFormats tree (some "e")).toOption.map (·.2) =
      some [["providers", "messaging", "webchat.gtpack"], uiPackPath])
    (left : inner ∉ [["providers", "messaging", "webchat.gtpack"], uiPackPath]) :
    ∃ staged, stageInto webchatFormats ⟨7⟩ tree (some "e") = .ok staged ∧
      packListIsComplete (fun _ => some staged.lock) (some staged.tree) ⟨7⟩ staged.lockRef =
        false := by
  cases ok : stageInto webchatFormats ⟨7⟩ tree (some "e") with
  | error failed =>
      rw [ok] at walked
      cases walked
  | ok staged =>
      rw [ok] at walked
      exact ⟨staged, rfl, (incomplete_of_unpinned ok pinned (of_decide_eq_true walked) left).2⟩

/-- With a link for one of the two directories the page is found on two paths, of which one
is pinned. -/
theorem page_walked_twice : ∀ tree ∈ [packsLinked, providersLinked],
    tree.Distinct ∧ ∃ staged, stageInto webchatFormats ⟨7⟩ tree (some "e") = .ok staged ∧
      packListIsComplete (fun _ => some staged.lock) (some staged.tree) ⟨7⟩ staged.lockRef =
        false := by
  rintro tree member
  rcases List.mem_pair.mp member with rfl | rfl
  · refine ⟨by simp [packsLinked, Entries.Distinct], ?_⟩
    exact incomplete_with_page ["providers", "pages", webchatUiPackFile]
      (by decide) (by decide) (by decide)
  · refine ⟨by simp [providersLinked, Entries.Distinct], ?_⟩
    exact incomplete_with_page ["providers", "packs", webchatUiPackFile]
      (by decide) (by decide) (by decide)

end GreenticDeployer.Bundle.Staging
