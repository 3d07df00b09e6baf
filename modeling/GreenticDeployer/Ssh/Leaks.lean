import GreenticDeployer.Credentials.StorePaths
import GreenticDeployer.Lib.Runs
import GreenticDeployer.Ssh.StoreArchive

/-!
# Secrets and the store archive

The deployer's own operations on an environment's directory, each a list of file
operations that may stop after any of them. Two runs that differ only in the
values of secrets the filter withholds lead to the same archive, unless a copy of
such a secret was left where the walk reads it.
-/

set_option maxHeartbeats 200000

namespace GreenticDeployer.Ssh

open Spec Lib

/-- Each with the contents at hand: an operation reads what it needs first, under
the environment's lock. -/
inductive FileOp
  | write (path : List String) (content : Content)
  | move (source target : List String) (content : Content)
  | remove (path : List String)

def FileOp.apply (tree : Listing Content) : FileOp → Listing Content
  | write path content => tree.write content path
  | move source target content => (tree.remove source).write content target
  | remove path => tree.remove path

def applyAll (tree : Listing Content) (ops : List FileOp) : Listing Content :=
  ops.foldl FileOp.apply tree

def resolveDevStorePath (tree : Listing Content) : List String :=
  Credentials.resolveDevStorePath (fun path => (tree.lookup path).isSome) devStore devStoreState none

def sibling (path : List String) (name : String) : List String := path.dropLast ++ [name]

def stagedSibling (path : List String) (ulid : String) : List String :=
  sibling path ("." ++ path.getLast?.getD "dev-secrets" ++ ".delete-" ++ ulid)

def backupOf (path : List String) (stamp : String) : List String :=
  ["backups", path.getLast?.getD "" ++ "." ++ stamp ++ ".bak"]

def capabilitySlots : List CapabilitySlot :=
  [.deployer, .secrets, .telemetry, .sessions, .state, .revocation, .messaging, .extension]

def trackedFiles (tree : Listing Content) : List (List String) :=
  [["environment.json"], ["runtime.json"], ["runtime-config.json"], ["env-apply-ownership.json"]] ++
  capabilitySlots.map (fun slot => ["env-packs", slot.asStr, "answers.json"]) ++
  (((tree.subdirectory "messaging").fileNames.filter (·.endsWith ".json")).map
    fun name => ["messaging", name]) ++
  [devStore, devStoreState]

def snapshotDir (id : String) : List String := ["snapshots", id]

abbrev Manifest := List (List String × Bool)

/-- How a manifest is written and read back. -/
structure ManifestJson where
  render : Manifest → Bytes
  parse : Bytes → Option Manifest

/-- What runs on an environment's directory. A delete drops the keys it selects;
`stamp` and `temp` are the names a restore makes up; the last two are the other
writes of state, whose contents no secret goes into. -/
inductive Operation
  | put (uri : String) (value : Bytes)
  | delete (selects : String → Bool) (ulid : String) (renameFails : Bool)
  | snapshotEnvironment (id : String)
  | restoreEnvironment (id stamp temp : String)
  | writeState (path : List String) (bytes : Bytes)
  | removeState (path : List String)

/-- The dev-store's library keeps a record for each version of a key; it does not
open a file that is not a store. -/
def putSecret (tree : Listing Content) (uri : String) (value : Bytes) : List FileOp :=
  let store := resolveDevStorePath tree
  match tree.lookup store with
  | some (.secrets records) => [.write store (.secrets (records ++ [(uri, value)]))]
  | some (.bytes _) => []
  | none => [.write store (.secrets [(uri, value)])]

/-- `rewrite_excluding`: a staged copy without the records of the keys, then a
rename, or the removal of the copy where that fails. -/
def rewriteExcluding (store : List String) (records : List (String × Bytes))
    (selects : String → Bool) (ulid : String) (renameFails : Bool) : List FileOp :=
  let staged := stagedSibling store ulid
  let kept := Content.secrets (records.filter fun record => !selects record.1)
  [.write staged kept, if renameFails then .remove staged else .move staged store kept]

def deleteSecrets (tree : Listing Content) (selects : String → Bool) (ulid : String)
    (renameFails : Bool) : List FileOp :=
  let store := resolveDevStorePath tree
  match tree.lookup store with
  | some (.secrets records) =>
    if records.any fun record => selects record.1 then
      rewriteExcluding store records selects ulid renameFails
    else []
  | _ => []

/-- `fs::copy` of a file that is there. -/
def copyFile (tree : Listing Content) (source target : List String) : List FileOp :=
  match tree.lookup source with
  | some content => [.write target content]
  | none => []

def captureFile (tree : Listing Content) (id : String) (rel : List String) : List FileOp :=
  copyFile tree rel (snapshotDir id ++ rel)

def copyToBackup (tree : Listing Content) (stamp : String) (rel : List String) : List FileOp :=
  copyFile tree rel (backupOf rel stamp)

/-- `snapshot_locked`. -/
def captureAll (json : ManifestJson) (tree : Listing Content) (id : String) : List FileOp :=
  (trackedFiles tree).flatMap (captureFile tree id) ++
    [.write (snapshotDir id ++ ["manifest.json"]) (.bytes (json.render
      ((trackedFiles tree).map fun rel => (rel, (tree.lookup rel).isSome))))]

def removeFile (tree : Listing Content) (stamp : String) (rel : List String) : List FileOp :=
  if (tree.lookup rel).isSome then copyToBackup tree stamp rel ++ [.remove rel] else []

/-- One file of a manifest: written anew through a temporary file, or removed. -/
def restoreFile (tree : Listing Content) (id stamp temp : String) (entry : List String × Bool) :
    List FileOp :=
  if entry.2 then
    match tree.lookup (snapshotDir id ++ entry.1) with
    | some content => copyToBackup tree stamp entry.1 ++
        [.write (sibling entry.1 temp) content, .move (sibling entry.1 temp) entry.1 content]
    | none => []
  else removeFile tree stamp entry.1

/-- The files below `messaging` a manifest does not name. -/
def strayMessaging (tree : Listing Content) (manifest : Manifest) : List (List String) :=
  ((tree.subdirectory "messaging").fileNames.map fun name => ["messaging", name]).filter
    fun rel => !(manifest.map (·.1)).contains rel

def restoreAll (json : ManifestJson) (tree : Listing Content) (id stamp temp : String) :
    List FileOp :=
  match tree.lookup (snapshotDir id ++ ["manifest.json"]) with
  | some (.bytes bytes) =>
    match json.parse bytes with
    | some manifest =>
      manifest.flatMap (restoreFile tree id stamp temp) ++
        (strayMessaging tree manifest).flatMap (removeFile tree stamp)
    | none => []
  | _ => []

def Operation.fileOps (json : ManifestJson) (tree : Listing Content) : Operation → List FileOp
  | put uri value => putSecret tree uri value
  | delete selects ulid renameFails => deleteSecrets tree selects ulid renameFails
  | snapshotEnvironment id => captureAll json tree id
  | restoreEnvironment id stamp temp => restoreAll json tree id stamp temp
  | writeState path bytes => [.write path (.bytes bytes)]
  | removeState path => [.remove path]

/-- An operation and how many of its file operations are done before it stops. -/
structure Attempt where
  operation : Operation
  reached : Nat

def Attempt.ops (json : ManifestJson) (tree : Listing Content) (attempt : Attempt) : List FileOp :=
  (attempt.operation.fileOps json tree).take attempt.reached

def directorySystem (json : ManifestJson) : System (Listing Content) Attempt where
  step := fun tree attempt => applyAll tree (attempt.ops json tree)
  allowed := fun _ _ => True

section Pairs

variable {withheld : String → Prop} {json : ManifestJson}

/-- Records that differ at most in the values of withheld secrets. -/
def SameRecords (withheld : String → Prop) (left right : List (String × Bytes)) : Prop :=
  List.Forall₂ (fun first second => first.1 = second.1 ∧
    (first.2 = second.2 ∨ withheld first.1)) left right

inductive SameSecrets (withheld : String → Prop) : Content → Content → Prop
  | secrets {left right} (records : SameRecords withheld left right) :
      SameSecrets withheld (.secrets left) (.secrets right)

/-- Equal contents, or in an unread place two dev-stores that differ in withheld
values. -/
def Permits (withheld : String → Prop) (path : List String) (left right : Content) : Prop :=
  left = right ∨ Unread path ∧ SameSecrets withheld left right

inductive SameOperation (withheld : String → Prop) : Operation → Operation → Prop
  | same {operation} : SameOperation withheld operation operation
  | put {uri value value'} (hidden : withheld uri) :
      SameOperation withheld (.put uri value) (.put uri value')

structure SameAttempt (withheld : String → Prop) (left right : Attempt) : Prop where
  operation : SameOperation withheld left.operation right.operation
  reached : left.reached = right.reached

theorem Permits.refl (path : List String) (content : Content) :
    Permits withheld path content content := .inl rfl

/-- A dev-store with a withheld secret in it. -/
def Content.Holds (withheld : String → Prop) : Content → Prop
  | .bytes _ => False
  | .secrets records => ∃ record ∈ records, withheld record.1

theorem SameRecords.eq_of_none {left right : List (String × Bytes)}
    (same : SameRecords withheld left right) (none_ : ¬ ∃ record ∈ left, withheld record.1) :
    left = right := by
  induction same with
  | nil => rfl
  | @cons first second rest rest' head tail ih =>
      have value : first.2 = second.2 := by
        rcases head.2 with equal | hidden
        · exact equal
        · exact absurd ⟨first, List.mem_cons_self, hidden⟩ none_
      have others : rest = rest' := by
        apply ih
        rintro ⟨record, member, hidden⟩
        exact none_ ⟨record, List.mem_cons_of_mem _ member, hidden⟩
      rw [others, Prod.ext head.1 value]

inductive SameFileOp (withheld : String → Prop) : FileOp → FileOp → Prop
  | write {path left right} (contents : Permits withheld path left right) :
      SameFileOp withheld (.write path left) (.write path right)
  | move {source target left right} (contents : Permits withheld target left right) :
      SameFileOp withheld (.move source target left) (.move source target right)
  | remove {path} : SameFileOp withheld (.remove path) (.remove path)

abbrev Matching (withheld : String → Prop) (left right : Listing Content) : Prop :=
  Listing.Alike (Permits withheld) [] left right

variable {left right : Listing Content}

theorem Matching.apply (matching : Matching withheld left right) {op op' : FileOp}
    (same : SameFileOp withheld op op') : Matching withheld (op.apply left) (op'.apply right) := by
  cases same with
  | write contents => exact matching.write _ contents
  | move contents => exact (matching.remove fun _ _ _ _ permits => permits).write _ contents
  | remove => exact matching.remove fun _ _ _ _ permits => permits

theorem Matching.all (matching : Matching withheld left right) {ops ops' : List FileOp}
    (same : List.Forall₂ (SameFileOp withheld) ops ops') :
    Matching withheld (applyAll left ops) (applyAll right ops') := by
  induction same generalizing left right with
  | nil => exact matching
  | cons first _ ih => exact ih (matching.apply first)

/-- A staged copy that is taken away again may hold what it likes. -/
theorem Matching.staged (matching : Matching withheld left right) (path : List String)
    {first second : Content} (secrets : SameSecrets withheld first second) :
    Matching withheld ((left.write first path).remove path)
      ((right.write second path).remove path) := by
  have wider : Listing.Alike (fun at_ first second => Permits withheld at_ first second ∨
      at_ = path ∧ SameSecrets withheld first second) [] left right :=
    matching.mono fun _ _ _ _ permits => .inl permits
  refine (wider.write path (.inr ⟨rfl, secrets⟩)).remove ?_
  intro other _ _ apart permitted
  rcases permitted with permits | ⟨same, _⟩
  · exact permits
  · exact absurd same apart

theorem SameRecords.refl (records : List (String × Bytes)) : SameRecords withheld records records :=
  List.forall₂_same.mpr fun _ _ => ⟨rfl, .inl rfl⟩

theorem SameRecords.filter {left right : List (String × Bytes)}
    (same : SameRecords withheld left right) (keep : String → Bool) :
    SameRecords withheld (left.filter fun record => keep record.1)
      (right.filter fun record => keep record.1) := by
  induction same with
  | nil => exact .nil
  | @cons first second rest rest' head tail ih =>
      simp only [List.filter_cons, ← head.1]
      split
      · exact .cons head ih
      · exact ih

theorem SameRecords.any {left right : List (String × Bytes)}
    (same : SameRecords withheld left right) (selects : String → Bool) :
    (left.any fun record => selects record.1) = right.any fun record => selects record.1 := by
  induction same with
  | nil => rfl
  | cons head tail ih => simp only [List.any_cons, ih, head.1]

theorem Matching.lookup_isSome (matching : Matching withheld left right) (path : List String) :
    (left.lookup path).isSome = (right.lookup path).isSome := by
  rcases matching.lookup path with ⟨absent, absent'⟩ | ⟨_, _, found, found', _⟩
  · rw [absent, absent']
  · rw [found, found']
    rfl

theorem Matching.resolveDevStorePath (matching : Matching withheld left right) :
    resolveDevStorePath left = resolveDevStorePath right := by
  unfold Ssh.resolveDevStorePath Credentials.resolveDevStorePath
  simp only [matching.lookup_isSome]

theorem unread_resolveDevStorePath (tree : Listing Content) :
    Unread (resolveDevStorePath tree) := by
  unfold Ssh.resolveDevStorePath Credentials.resolveDevStorePath
  dsimp only
  split
  · exact .inl rfl
  · split
    · exact .inr (.inl rfl)
    · exact .inl rfl

theorem Matching.store (matching : Matching withheld left right) (path : List String) :
    (left.lookup path = none ∧ right.lookup path = none) ∨
    (∃ bytes, left.lookup path = some (.bytes bytes) ∧ right.lookup path = some (.bytes bytes)) ∨
    ∃ records records', left.lookup path = some (.secrets records) ∧
      right.lookup path = some (.secrets records') ∧ SameRecords withheld records records' := by
  rcases matching.lookup path with absent | ⟨first, second, found, found', permits⟩
  · exact .inl absent
  · rcases permits with same | ⟨_, ⟨records⟩⟩
    · subst same
      cases first with
      | bytes bytes => exact .inr (.inl ⟨bytes, found, found'⟩)
      | secrets records => exact .inr (.inr ⟨records, records, found, found', .refl records⟩)
    · exact .inr (.inr ⟨_, _, found, found', records⟩)

theorem Matching.putSecret (matching : Matching withheld left right) {uri : String}
    {value value' : Bytes} (same : value = value' ∨ withheld uri) :
    List.Forall₂ (SameFileOp withheld) (putSecret left uri value) (putSecret right uri value') := by
  have last : SameRecords withheld [(uri, value)] [(uri, value')] := .cons ⟨rfl, same⟩ .nil
  simp only [Ssh.putSecret, ← matching.resolveDevStorePath]
  have unread := unread_resolveDevStorePath left
  rcases matching.store (Ssh.resolveDevStorePath left) with
    ⟨absent, absent'⟩ | ⟨bytes, found, found'⟩ | ⟨records, records', found, found', alike⟩
  · rw [absent, absent']
    exact .cons (.write (.inr ⟨unread, .secrets last⟩)) .nil
  · rw [found, found']
    exact .nil
  · rw [found, found']
    exact .cons (.write (.inr ⟨unread, .secrets (List.rel_append alike last)⟩)) .nil

theorem Matching.copyToBackup (matching : Matching withheld left right) (stamp : String)
    (rel : List String) :
    List.Forall₂ (SameFileOp withheld) (copyToBackup left stamp rel)
      (copyToBackup right stamp rel) := by
  have unread : Unread (backupOf rel stamp) := .inr (.inr rfl)
  unfold Ssh.copyToBackup copyFile
  rcases matching.lookup rel with ⟨absent, absent'⟩ | ⟨_, _, found, found', permits⟩
  · rw [absent, absent']
    exact .nil
  · rw [found, found']
    refine .cons (.write ?_) .nil
    rcases permits with same | ⟨_, secrets⟩
    · exact .inl same
    · exact .inr ⟨unread, secrets⟩

theorem Matching.removeFile (matching : Matching withheld left right) (stamp : String)
    (rel : List String) :
    List.Forall₂ (SameFileOp withheld) (removeFile left stamp rel) (removeFile right stamp rel) := by
  unfold Ssh.removeFile
  rw [matching.lookup_isSome]
  split
  · exact List.rel_append (matching.copyToBackup stamp rel) (.cons .remove .nil)
  · exact .nil

theorem not_unread_snapshot (id : String) (rel : List String) :
    ¬ Unread (snapshotDir id ++ rel) := by
  have top : (snapshotDir id ++ rel).head? = some "snapshots" := rfl
  rintro (dev | state | backups)
  · rw [dev] at top
    exact absurd top (by decide)
  · rw [state] at top
    exact absurd top (by decide)
  · rw [backups] at top
    exact absurd top (by decide)

theorem Matching.snapshotFile (matching : Matching withheld left right) (id : String)
    (rel : List String) :
    left.lookup (snapshotDir id ++ rel) = right.lookup (snapshotDir id ++ rel) := by
  rcases matching.lookup (snapshotDir id ++ rel) with ⟨absent, absent'⟩ | ⟨_, _, found, found', permits⟩
  · rw [absent, absent']
  · rcases permits with same | ⟨unread, _⟩
    · rw [found, found', same]
    · exact absurd unread (not_unread_snapshot id rel)

theorem Matching.restoreFile (matching : Matching withheld left right) (id stamp temp : String)
    (entry : List String × Bool) :
    List.Forall₂ (SameFileOp withheld) (restoreFile left id stamp temp entry)
      (restoreFile right id stamp temp entry) := by
  unfold Ssh.restoreFile
  rw [matching.snapshotFile]
  split
  · split
    · refine List.rel_append (matching.copyToBackup stamp entry.1) ?_
      exact .cons (.write (.refl _ _)) (.cons (.move (.refl _ _)) .nil)
    · exact .nil
  · exact matching.removeFile stamp entry.1

theorem forall₂_flatMap {α β : Type} {related : β → β → Prop} {f g : α → List β}
    (items : List α) (each : ∀ item, List.Forall₂ related (f item) (g item)) :
    List.Forall₂ related (items.flatMap f) (items.flatMap g) := by
  induction items with
  | nil => exact .nil
  | cons item rest ih => exact List.rel_append (each item) ih

theorem Matching.messaging (matching : Matching withheld left right) :
    (left.subdirectory "messaging").fileNames = (right.subdirectory "messaging").fileNames :=
  (Listing.Alike.subdirectory matching "messaging").fileNames

theorem Matching.restoreAll (matching : Matching withheld left right) (id stamp temp : String) :
    List.Forall₂ (SameFileOp withheld) (restoreAll json left id stamp temp)
      (restoreAll json right id stamp temp) := by
  unfold Ssh.restoreAll
  rw [matching.snapshotFile]
  split
  · split
    · refine List.rel_append (forall₂_flatMap _ fun entry => matching.restoreFile id stamp temp entry) ?_
      unfold strayMessaging
      rw [matching.messaging]
      exact forall₂_flatMap _ fun rel => matching.removeFile stamp rel
    · exact .nil
  · exact .nil

/-- Copies of files, read by the walk or not. -/
inductive SameCopy (withheld : String → Prop) : FileOp → FileOp → Prop
  | write {path first second} (contents : first = second ∨ SameSecrets withheld first second) :
      SameCopy withheld (.write path first) (.write path second)

theorem SameCopy.sameFileOp {op op' : FileOp} (same : SameCopy withheld op op')
    (none_ : ∀ path content, op = .write path content → ¬ content.Holds withheld) :
    SameFileOp withheld op op' := by
  cases same with
  | write contents =>
      refine .write (.inl ?_)
      rcases contents with same | secrets
      · exact same
      · cases secrets with
        | secrets records => rw [records.eq_of_none (none_ _ _ rfl)]

theorem Matching.captureAll (matching : Matching withheld left right) (id : String) :
    List.Forall₂ (SameCopy withheld) (captureAll json left id) (captureAll json right id) := by
  have tracked : trackedFiles left = trackedFiles right := by
    unfold trackedFiles
    rw [matching.messaging]
  have present : ∀ rel, (left.lookup rel).isSome = (right.lookup rel).isSome :=
    matching.lookup_isSome
  unfold Ssh.captureAll
  simp only [tracked, present]
  refine List.rel_append (forall₂_flatMap _ fun rel => ?_) (.cons (.write (.inl rfl)) .nil)
  unfold captureFile copyFile
  rcases matching.lookup rel with ⟨absent, absent'⟩ | ⟨_, _, found, found', permits⟩
  · rw [absent, absent']
    exact .nil
  · rw [found, found']
    refine .cons (.write ?_) .nil
    rcases permits with same | ⟨_, secrets⟩
    · exact .inl same
    · exact .inr secrets

/-- An attempt that leaves no copy of a withheld secret where the walk reads it: a
snapshot captures none, and no delete stops with one in its staged copy. -/
def Attempt.Contained (withheld : String → Prop) (json : ManifestJson) (tree : Listing Content)
    (attempt : Attempt) : Prop :=
  match attempt.operation with
  | .snapshotEnvironment _ => ∀ path content, .write path content ∈ attempt.ops json tree →
      ¬ content.Holds withheld
  | .delete _ _ _ => attempt.reached = 1 → ∀ path content,
      .write path content ∈ attempt.ops json tree → ¬ content.Holds withheld
  | _ => True

theorem forall₂_of_mem {α : Type} {weak strong : α → α → Prop} {left right : List α}
    (related : List.Forall₂ weak left right)
    (each : ∀ first second, first ∈ left → weak first second → strong first second) :
    List.Forall₂ strong left right := by
  induction related with
  | nil => exact .nil
  | cons head _ ih =>
      refine .cons (each _ _ List.mem_cons_self head) (ih ?_)
      exact fun first second member => each first second (List.mem_cons_of_mem _ member)

/-- A rewrite that is not cut between its two file operations leaves the staged
copy nowhere. -/
theorem Matching.rewriteExcluding (matching : Matching withheld left right)
    {store : List String} (unread : Unread store) {records records' : List (String × Bytes)}
    (alike : SameRecords withheld records records') (selects : String → Bool) (ulid : String)
    (renameFails : Bool) (reached : Nat)
    (contained : reached = 1 → ¬ ∃ record ∈ records.filter fun record => !selects record.1,
      withheld record.1) :
    Matching withheld
      (applyAll left ((rewriteExcluding store records selects ulid renameFails).take reached))
      (applyAll right ((rewriteExcluding store records' selects ulid renameFails).take reached)) := by
  have kept := alike.filter fun uri => !selects uri
  have taken := matching.staged (stagedSibling store ulid) (.secrets kept)
  match reached with
  | 0 => exact matching
  | 1 =>
      have equal := kept.eq_of_none (contained rfl)
      simp only [Ssh.rewriteExcluding, List.take, applyAll, List.foldl, FileOp.apply, equal]
      exact Listing.Alike.write matching _ (.refl _ _)
  | more + 2 =>
      have whole : ∀ first second : FileOp,
          [first, second].take (more + 2) = [first, second] := by simp
      cases renameFails with
      | true =>
          simp only [Ssh.rewriteExcluding, whole]
          exact taken
      | false =>
          simp only [Ssh.rewriteExcluding, whole]
          exact Listing.Alike.write taken store (.inr ⟨unread, .secrets kept⟩)

theorem Matching.deleteSecrets (matching : Matching withheld left right)
    (selects : String → Bool) (ulid : String) (renameFails : Bool) (reached : Nat)
    (contained : reached = 1 → ∀ path content,
      .write path content ∈ (deleteSecrets left selects ulid renameFails).take reached →
        ¬ content.Holds withheld) :
    Matching withheld
      (applyAll left ((deleteSecrets left selects ulid renameFails).take reached))
      (applyAll right ((deleteSecrets right selects ulid renameFails).take reached)) := by
  simp only [Ssh.deleteSecrets, ← matching.resolveDevStorePath] at contained ⊢
  rcases matching.store (Ssh.resolveDevStorePath left) with
    ⟨absent, absent'⟩ | ⟨bytes, found, found'⟩ | ⟨records, records', found, found', alike⟩
  · simpa [absent, absent', applyAll] using matching
  · simpa [found, found', applyAll] using matching
  · simp only [found, found'] at contained ⊢
    have any := alike.any selects
    by_cases selected : (records.any fun record => selects record.1) = true
    · rw [if_pos selected] at contained
      rw [if_pos selected, if_pos (any ▸ selected)]
      refine matching.rewriteExcluding (unread_resolveDevStorePath left) alike selects ulid
        renameFails reached ?_
      rintro rfl
      exact contained rfl _ _ List.mem_cons_self
    · rw [if_neg selected, if_neg (any ▸ selected)]
      simpa [applyAll] using matching

theorem Matching.step (matching : Matching withheld left right) {attempt attempt' : Attempt}
    (same : SameAttempt withheld attempt attempt')
    (contained : attempt.Contained withheld json left) :
    Matching withheld ((directorySystem json).step left attempt)
      ((directorySystem json).step right attempt') := by
  obtain ⟨operation, reached⟩ := attempt
  obtain ⟨operation', _⟩ := attempt'
  obtain ⟨operations, rfl⟩ := same
  cases operations with
  | put hidden =>
      exact matching.all (List.forall₂_take reached (matching.putSecret (.inr hidden)))
  | same =>
      cases operation with
      | put uri value =>
          exact matching.all (List.forall₂_take reached (matching.putSecret (.inl rfl)))
      | delete selects ulid renameFails =>
          exact matching.deleteSecrets selects ulid renameFails reached contained
      | snapshotEnvironment id =>
          refine matching.all (forall₂_of_mem (List.forall₂_take reached
            (matching.captureAll id)) fun op _ member copies => copies.sameFileOp ?_)
          rintro path content rfl
          exact contained path content member
      | restoreEnvironment id stamp temp =>
          exact matching.all (List.forall₂_take reached (matching.restoreAll id stamp temp))
      | writeState path bytes =>
          exact matching.all (List.forall₂_take reached (.cons (.write (.refl _ _)) .nil))
      | removeState path =>
          exact matching.all (List.forall₂_take reached (.cons .remove .nil))

theorem Matching.run (matching : Matching withheld left right) {attempts attempts' : List Attempt}
    (same : List.Forall₂ (SameAttempt withheld) attempts attempts')
    (contained : ((directorySystem json).restrict
      fun tree attempt => attempt.Contained withheld json tree).Admits left attempts) :
    Matching withheld ((directorySystem json).run left attempts)
      ((directorySystem json).run right attempts') := by
  induction same generalizing left right with
  | nil => exact matching
  | cons first _ ih => exact ih (matching.step first contained.1.2) contained.2

/-- Two runs of the same operations from directories in step, withheld values
apart, build the same archive if every attempt of the first is contained. -/
theorem archive_is_independent_of_withheld (libs : ArchiveLibs) (json : ManifestJson)
    (input : SnapshotInput) (withheld : String → Prop) (start start' : Listing Content)
    (attempts attempts' : List Attempt) (matching : Matching withheld start start')
    (same : List.Forall₂ (SameAttempt withheld) attempts attempts')
    (contained : ((directorySystem json).restrict
      fun tree attempt => attempt.Contained withheld json tree).Admits start attempts) :
    buildStoreArchive libs input (some ((directorySystem json).run start attempts)) =
      buildStoreArchive libs input (some ((directorySystem json).run start' attempts')) := by
  refine buildStoreArchive_alike libs input (matching.run same contained) ?_
  intro path first second permits
  rcases permits with equal | ⟨unread, _⟩
  · exact .inl equal
  · exact .inr unread

def credentialUri : String := "secrets://prod/deployer/_/bound/credential"

def sampleLibs : ArchiveLibs where
  encode := fun records => records.flatMap (·.2)
  writeTar := fun entries => some (entries.flatMap fun entry => entry.2.getD [])
  hexSha256 := fun _ => "00"

def sampleManifestJson : ManifestJson := ⟨fun _ => [], fun _ => some []⟩

def sampleSnapshotInput : SnapshotInput := ⟨"prod", some [1], none, some⟩

def credentialPut (value : UInt8) : Attempt := ⟨.put credentialUri [value], 1⟩

/-- With the credential in the dev-store alone, its value does not reach the
archive. -/
theorem put_credential_is_withheld :
    buildStoreArchive sampleLibs sampleSnapshotInput
        (some ((directorySystem sampleManifestJson).run .nil [credentialPut 7])) =
      buildStoreArchive sampleLibs sampleSnapshotInput
        (some ((directorySystem sampleManifestJson).run .nil [credentialPut 8])) := by
  have same : List.Forall₂ (SameAttempt (· = credentialUri)) [credentialPut 7]
      [credentialPut 8] := .cons ⟨.put rfl, rfl⟩ .nil
  exact archive_is_independent_of_withheld sampleLibs sampleManifestJson sampleSnapshotInput
    (· = credentialUri) .nil .nil _ _ .nil same ⟨⟨trivial, trivial⟩, trivial⟩

/-- An environment snapshot copies the dev-store below `snapshots`, and the archive
ships the copy: it tells the two values of the credential apart. -/
theorem snapshot_ships_credential :
    List.Forall₂ (SameAttempt (· = credentialUri))
      [credentialPut 7, ⟨.snapshotEnvironment "01", 20⟩]
      [credentialPut 8, ⟨.snapshotEnvironment "01", 20⟩] ∧
    buildStoreArchive sampleLibs sampleSnapshotInput (some ((directorySystem
        sampleManifestJson).run .nil [credentialPut 7, ⟨.snapshotEnvironment "01", 20⟩])) ≠
      buildStoreArchive sampleLibs sampleSnapshotInput (some ((directorySystem
        sampleManifestJson).run .nil [credentialPut 8, ⟨.snapshotEnvironment "01", 20⟩])) := by
  constructor
  · exact .cons ⟨.put rfl, rfl⟩ (.cons ⟨.same, rfl⟩ .nil)
  · decide +kernel

end Pairs

end GreenticDeployer.Ssh
