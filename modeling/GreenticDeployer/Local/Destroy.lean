import GreenticDeployer.Lib.Runs
import GreenticDeployer.Spec.Documents
import Mathlib.Logic.Function.Basic

/-!
# Destroying environments of one root

A destroy renames the directory of an environment to a tombstone and removes that. A
tombstone that could not be removed is left, and a later destroy finds it by its name.
The name holds only the first 128 characters of the id.
-/

set_option maxHeartbeats 200000

namespace GreenticDeployer.Local

open Spec Lib

/-- `safe_env_segment`: a name of one path segment. -/
def safeEnvSegment (id : EnvId) : Bool :=
  id.asStr ≠ "" && id.asStr ≠ "." && id.asStr ≠ ".." &&
    id.asStr.toList.all fun c => c ≠ '/' && c ≠ '\\' && c ≠ ':' && c ≠ '\x00'

/-- A valid id that the store accepts. Its charset has no `~`. -/
structure StoreId where
  id : EnvId
  charset : '~' ∉ id.asStr.toList
  safe : safeEnvSegment id = true
  deriving DecidableEq

def StoreId.name (id : StoreId) : String := id.id.asStr

def tombstonePrefix (id : StoreId) : String :=
  String.ofList (id.name.toList.take 128) ++ ".destroyed~"

def tombstoneName (id : StoreId) (ulid : Ulid) : String :=
  tombstonePrefix id ++ String.ofList ulid.toChars

/-- A directory of the root. The inode stays with it across a rename; `document`
says whether there is an `environment.json` in it. -/
structure StoredDir where
  inode : Nat
  document : Bool
  deriving DecidableEq

structure Root where
  dirAt : String → Option StoredDir
  nextInode : Nat

def Root.empty : Root := ⟨fun _ => none, 0⟩

def Root.put (root : Root) (name : String) (dir : Option StoredDir) : Root :=
  { root with dirAt := Function.update root.dirAt name dir }

def Root.hasEnvironment (root : Root) (id : StoreId) : Bool :=
  ((root.dirAt id.name).map (·.document)).getD false

inductive DestroyError where
  | notFound (id : StoreId)
  | io (path : String)
  | refused (reason : String)
  | committedAfterSave (path : String)
  deriving DecidableEq

structure DestroyOutcome where
  removedPath : String
  reapedTombstones : Nat
  deriving DecidableEq

/-- A `remove_dir_all`. One that gets stuck may have removed the document already. -/
inductive Purge where
  | removed
  | stuck (documentLeft : Bool)

structure CreateCall where
  id : StoreId
  /-- Otherwise the call ends after it has made the directory for the lock file. -/
  saved : Bool

structure DestroyCall where
  id : StoreId
  /-- The lock, the provider teardown and the refusal of a symlinked root. -/
  guards : Except DestroyError Unit
  ulid : Ulid
  /-- The names in the order in which `read_dir` returns the readable ones. -/
  listing : List String
  purge : String → Purge

inductive RootCall where
  | create (call : CreateCall)
  | destroy (call : DestroyCall)

def createEnvironment (root : Root) (call : CreateCall) : Root :=
  match root.dirAt call.id.name with
  | some dir => root.put call.id.name (some ⟨dir.inode, dir.document || call.saved⟩)
  | none =>
    { root.put call.id.name (some ⟨root.nextInode, call.saved⟩) with
      nextInode := root.nextInode + 1 }

def collectTombstones (root : Root) (listing : List String) (namePrefix : String) : List String :=
  listing.filter fun name =>
    (root.dirAt name).isSome && namePrefix.toList.isPrefixOf name.toList

/-- Up to the first that gets stuck. -/
def purgeTombstones (purge : String → Purge) :
    Root → List String → Nat → Root × Except DestroyError Nat
  | root, [], count => (root, .ok count)
  | root, path :: rest, count =>
    match purge path with
    | .removed => purgeTombstones purge (root.put path none) rest (count + 1)
    | .stuck documentLeft =>
      (root.put path ((root.dirAt path).map fun dir =>
        ⟨dir.inode, dir.document && documentLeft⟩), .error (.committedAfterSave path))

/-- Remove what is left of the environment under tombstone names. -/
def reapTombstones (root : Root) (call : DestroyCall) :
    Root × Except DestroyError DestroyOutcome :=
  let reaped := purgeTombstones call.purge root
    (collectTombstones root call.listing (tombstonePrefix call.id)) 0
  (reaped.1, reaped.2.map fun count => ⟨call.id.name, count⟩)

def renameToTombstone (root : Root) (id : StoreId) (ulid : Ulid) : Root :=
  (root.put (tombstoneName id ulid) (root.dirAt id.name)).put id.name none

def destroyEnvironment (root : Root) (call : DestroyCall) :
    Root × Except DestroyError DestroyOutcome :=
  if root.hasEnvironment call.id = false then
    if collectTombstones root call.listing (tombstonePrefix call.id) = [] then
      (root, .error (.notFound call.id))
    else reapTombstones root call
  else
    match call.guards with
    | .error e => (root, .error e)
    | .ok () =>
      -- Fresh ulids do not meet; a rename onto a directory fails.
      if (root.dirAt (tombstoneName call.id call.ulid)).isSome then
        (root, .error (.io call.id.name))
      else
        let fresh := purgeTombstones call.purge (renameToTombstone root call.id call.ulid)
          [tombstoneName call.id call.ulid] 0
        match fresh.2 with
        | .error e => (fresh.1, .error e)
        | .ok _ => reapTombstones fresh.1 call

def rootCalls : System Root RootCall where
  step := fun root call =>
    match call with
    | .create call => createEnvironment root call
    | .destroy call => (destroyEnvironment root call).1
  allowed := fun _ _ => True

/-- The directory stood under the name of the environment, with its document, at some
time of the run. -/
def Held (calls : List RootCall) (id : StoreId) (inode : Nat) : Prop :=
  ∃ earlier, earlier <+: calls ∧ ∃ dir, (rootCalls.run Root.empty earlier).dirAt id.name =
    some dir ∧ dir.inode = inode ∧ dir.document = true

/-- After the calls, the destroy removes or changes only what its own environment held,
leaves what another held, and reports an environment that never was. -/
structure Contained (calls : List RootCall) (call : DestroyCall) : Prop where
  own : ∀ name dir, (rootCalls.run Root.empty calls).dirAt name = some dir →
    (destroyEnvironment (rootCalls.run Root.empty calls) call).1.dirAt name ≠ some dir →
    Held calls call.id dir.inode
  others : ∀ other, other ≠ call.id → ∀ name dir,
    (rootCalls.run Root.empty calls).dirAt name = some dir → Held calls other dir.inode →
    (destroyEnvironment (rootCalls.run Root.empty calls) call).1.dirAt name = some dir
  missing : (∀ inode, ¬ Held calls call.id inode) →
    destroyEnvironment (rootCalls.run Root.empty calls) call =
      (rootCalls.run Root.empty calls, .error (.notFound call.id))

/-- No tombstone is left of another environment whose id begins with the same 128
characters. -/
def Clear (calls : List RootCall) (id : StoreId) : Prop :=
  ∀ other, other ≠ id → other.name.toList.take 128 = id.name.toList.take 128 →
    ∀ name dir, (rootCalls.run Root.empty calls).dirAt name = some dir →
      Held calls other dir.inode → name = other.name

theorem split_at_first {α : Type} {mark : α} {left left' right right' : List α}
    (same : left ++ mark :: right = left' ++ mark :: right') (clean : mark ∉ left)
    (clean' : mark ∉ left') : left = left' := by
  induction left generalizing left' with
  | nil =>
      cases left' with
      | nil => rfl
      | cons head tail =>
          have first : mark = head := (List.cons.inj same).1
          exact absurd (first ▸ List.mem_cons_self) clean'
  | cons head tail ih =>
      cases left' with
      | nil =>
          have first : head = mark := (List.cons.inj same).1
          exact absurd (first ▸ List.mem_cons_self) clean
      | cons head' tail' =>
          obtain ⟨rfl, rest⟩ := List.cons.inj same
          rw [ih rest (fun h => clean (List.mem_cons_of_mem _ h))
            (fun h => clean' (List.mem_cons_of_mem _ h))]

/-- What stands before the `~`. -/
def stem (id : StoreId) : List Char := id.name.toList.take 128 ++ ".destroyed".toList

theorem stem_clean (id : StoreId) : '~' ∉ stem id := by
  intro member
  rcases List.mem_append.mp member with early | late
  · exact id.charset (List.mem_of_mem_take early)
  · revert late
    decide

theorem tombstonePrefix_toList (id : StoreId) :
    (tombstonePrefix id).toList = stem id ++ ['~'] := by
  have mark : ".destroyed~".toList = ".destroyed".toList ++ ['~'] := by decide
  simp only [tombstonePrefix, String.toList_append, String.toList_ofList, stem, mark,
    List.append_assoc]

theorem tombstoneName_toList (id : StoreId) (ulid : Ulid) :
    (tombstoneName id ulid).toList = stem id ++ '~' :: ulid.toChars := by
  simp [tombstoneName, tombstonePrefix_toList]

theorem name_ne_tombstone (id other : StoreId) (ulid : Ulid) : id.name ≠ tombstoneName other ulid := by
  intro same
  apply id.charset
  change '~' ∈ id.name.toList
  rw [same, tombstoneName_toList]
  simp

theorem not_prefix_name (id other : StoreId) :
    ¬ (tombstonePrefix id).toList <+: other.name.toList := by
  intro starts
  apply other.charset
  refine starts.subset ?_
  rw [tombstonePrefix_toList]
  simp

theorem cut_of_same_start {id other : StoreId} {ulid : Ulid}
    (starts : (tombstonePrefix id).toList <+: (tombstoneName other ulid).toList) :
    other.name.toList.take 128 = id.name.toList.take 128 := by
  obtain ⟨rest, shape⟩ := starts
  rw [tombstonePrefix_toList, tombstoneName_toList, List.append_assoc] at shape
  have same := split_at_first shape (stem_clean id) (stem_clean other)
  exact List.append_cancel_right same.symm

/-- Every directory stands under the name of one environment or under a tombstone name of
the one that held it. -/
structure Lineage (held : StoreId → Nat → Prop) (root : Root) : Prop where
  seen : ∀ id dir, root.dirAt id.name = some dir → dir.document = true → held id dir.inode
  bound : ∀ name dir, root.dirAt name = some dir → dir.inode < root.nextInode
  heldBound : ∀ id inode, held id inode → inode < root.nextInode
  one : ∀ id id' inode, held id inode → held id' inode → id = id'
  unique : ∀ name dir name' dir', root.dirAt name = some dir → root.dirAt name' = some dir' →
    dir.inode = dir'.inode → name = name'
  named : ∀ name dir, root.dirAt name = some dir →
    (∃ id : StoreId, name = id.name ∧ ∀ other, held other dir.inode → other = id) ∨
      ∃ id ulid, name = tombstoneName id ulid ∧ held id dir.inode

/-- Directories are only removed, or lose their document. -/
structure Shrinks (before after : Root) : Prop where
  nextInode : after.nextInode = before.nextInode
  each : ∀ name dir, after.dirAt name = some dir → ∃ old, before.dirAt name = some old ∧
    dir.inode = old.inode ∧ (dir.document = true → old.document = true)

theorem Shrinks.refl (root : Root) : Shrinks root root :=
  ⟨rfl, fun _ dir there => ⟨dir, there, rfl, id⟩⟩

theorem Shrinks.trans {first second third : Root} (early : Shrinks first second)
    (late : Shrinks second third) : Shrinks first third := by
  refine ⟨late.nextInode.trans early.nextInode, ?_⟩
  intro name dir there
  obtain ⟨middle, between, inode, document⟩ := late.each name dir there
  obtain ⟨old, before, inode', document'⟩ := early.each name middle between
  exact ⟨old, before, inode.trans inode', fun h => document' (document h)⟩

theorem StoreId.name_injective {id id' : StoreId} (same : id.name = id'.name) : id = id' := by
  obtain ⟨⟨text⟩, charset, safe⟩ := id
  obtain ⟨⟨text'⟩, charset', safe'⟩ := id'
  cases (same : text = text')
  rfl

section Lineage

variable {held : StoreId → Nat → Prop} {root : Root}

theorem Lineage.shrink {after : Root} (lineage : Lineage held root) (shrinks : Shrinks root after) :
    Lineage held after := by
  constructor
  · intro id dir there document
    obtain ⟨old, before, inode, kept⟩ := shrinks.each _ _ there
    rw [inode]
    exact lineage.seen id old before (kept document)
  · intro name dir there
    obtain ⟨old, before, inode, -⟩ := shrinks.each _ _ there
    rw [inode, shrinks.nextInode]
    exact lineage.bound name old before
  · intro id inode holds
    rw [shrinks.nextInode]
    exact lineage.heldBound id inode holds
  · exact lineage.one
  · intro name dir name' dir' there there' same
    obtain ⟨old, before, inode, -⟩ := shrinks.each _ _ there
    obtain ⟨old', before', inode', -⟩ := shrinks.each _ _ there'
    exact lineage.unique name old name' old' before before' (by rw [← inode, ← inode', same])
  · intro name dir there
    obtain ⟨old, before, inode, -⟩ := shrinks.each _ _ there
    rw [inode]
    exact lineage.named name old before

theorem dirAt_renameToTombstone {id : StoreId} {ulid : Ulid} {name : String} {dir : StoredDir}
    (there : (renameToTombstone root id ulid).dirAt name = some dir) :
    name ≠ id.name ∧ (name = tombstoneName id ulid ∧ root.dirAt id.name = some dir ∨
      name ≠ tombstoneName id ulid ∧ root.dirAt name = some dir) := by
  by_cases own : name = id.name
  · subst own
    simp [renameToTombstone, Root.put] at there
  · by_cases renamed : name = tombstoneName id ulid
    · subst renamed
      simp only [renameToTombstone, Root.put, ne_eq, own, not_false_eq_true,
        Function.update_of_ne, Function.update_self] at there
      exact ⟨own, .inl ⟨rfl, there⟩⟩
    · simp only [renameToTombstone, Root.put, ne_eq, own, renamed, not_false_eq_true,
        Function.update_of_ne] at there
      exact ⟨own, .inr ⟨renamed, there⟩⟩

theorem Lineage.rename (lineage : Lineage held root) {id : StoreId} {ulid : Ulid}
    (exists_ : root.hasEnvironment id = true) : Lineage held (renameToTombstone root id ulid) := by
  constructor
  · intro other dir there document
    obtain ⟨-, ⟨renamed, -⟩ | ⟨-, before⟩⟩ := dirAt_renameToTombstone there
    · exact absurd renamed (name_ne_tombstone _ _ _)
    · exact lineage.seen other dir before document
  · intro name dir there
    obtain ⟨-, ⟨-, before⟩ | ⟨-, before⟩⟩ := dirAt_renameToTombstone there
    · exact lineage.bound _ dir before
    · exact lineage.bound _ dir before
  · exact lineage.heldBound
  · exact lineage.one
  · intro name dir name' dir' there there' same
    obtain ⟨away, ⟨renamed, before⟩ | ⟨-, before⟩⟩ := dirAt_renameToTombstone there
    · obtain ⟨away', ⟨renamed', -⟩ | ⟨-, before'⟩⟩ := dirAt_renameToTombstone there'
      · rw [renamed, renamed']
      · exact absurd (lineage.unique _ _ _ _ before before' same).symm away'
    · obtain ⟨away', ⟨-, before'⟩ | ⟨-, before'⟩⟩ := dirAt_renameToTombstone there'
      · exact absurd (lineage.unique _ _ _ _ before before' same) away
      · exact lineage.unique _ _ _ _ before before' same
  · intro name dir there
    obtain ⟨-, ⟨renamed, before⟩ | ⟨-, before⟩⟩ := dirAt_renameToTombstone there
    · refine .inr ⟨id, ulid, renamed, lineage.seen id dir before ?_⟩
      simpa [Root.hasEnvironment, before] using exists_
    · exact lineage.named name dir before

theorem createEnvironment_eq (root : Root) (call : CreateCall) :
    ∃ dir, (createEnvironment root call).dirAt =
        Function.update root.dirAt call.id.name (some dir) ∧
      ((∃ old, root.dirAt call.id.name = some old ∧ dir.inode = old.inode ∧
          (createEnvironment root call).nextInode = root.nextInode) ∨
        root.dirAt call.id.name = none ∧ dir.inode = root.nextInode ∧
          (createEnvironment root call).nextInode = root.nextInode + 1) := by
  unfold createEnvironment
  cases there : root.dirAt call.id.name with
  | some old => exact ⟨_, rfl, .inl ⟨old, rfl, rfl, rfl⟩⟩
  | none => exact ⟨_, rfl, .inr ⟨rfl, rfl, rfl⟩⟩

/-- What a create adds to the history: its own directory, if the document was saved. -/
theorem Lineage.create (lineage : Lineage held root) (call : CreateCall)
    {held' : StoreId → Nat → Prop}
    (history : ∀ id inode, held' id inode ↔ held id inode ∨
      ∃ dir, (createEnvironment root call).dirAt id.name = some dir ∧ dir.inode = inode ∧
        dir.document = true) :
    Lineage held' (createEnvironment root call) := by
  obtain ⟨made, dirAt, origin⟩ := createEnvironment_eq root call
  have away : ∀ {name}, name ≠ call.id.name →
      (createEnvironment root call).dirAt name = root.dirAt name := by
    intro name other
    rw [dirAt, Function.update_of_ne other]
  have here : (createEnvironment root call).dirAt call.id.name = some made := by
    rw [dirAt, Function.update_self]
  have more : root.nextInode ≤ (createEnvironment root call).nextInode := by
    rcases origin with ⟨_, -, -, next⟩ | ⟨-, -, next⟩ <;> omega
  have fits : made.inode < (createEnvironment root call).nextInode := by
    rcases origin with ⟨old, before, inode, next⟩ | ⟨-, inode, next⟩
    · rw [inode, next]
      exact lineage.bound _ old before
    · omega
  -- The directory of the call was nobody else's.
  have own : ∀ other, held other made.inode → other = call.id := by
    intro other holds
    rcases origin with ⟨old, before, inode, -⟩ | ⟨-, inode, -⟩
    · rw [inode] at holds
      rcases lineage.named _ old before with ⟨id, same, only⟩ | ⟨id, ulid, same, -⟩
      · rw [only other holds, StoreId.name_injective same]
      · exact absurd same (name_ne_tombstone _ _ _)
    · have bound := lineage.heldBound other made.inode holds
      omega
  have alone : ∀ name dir, root.dirAt name = some dir → dir.inode = made.inode →
      name = call.id.name := by
    intro name dir there same
    rcases origin with ⟨old, before, inode, -⟩ | ⟨-, inode, -⟩
    · exact lineage.unique _ _ _ _ there before (same.trans inode)
    · have bound := lineage.bound name dir there
      omega
  have holders : ∀ id inode, held' id inode → held id inode ∨ id = call.id ∧ inode = made.inode := by
    intro id inode holds
    rcases (history id inode).mp holds with before | ⟨dir, there, rfl, document⟩
    · exact .inl before
    · by_cases same : id = call.id
      · rw [same, here] at there
        cases there
        exact .inr ⟨same, rfl⟩
      · rw [away fun h => same (StoreId.name_injective h)] at there
        exact .inl (lineage.seen id dir there document)
  constructor
  · intro id dir there document
    exact (history id dir.inode).mpr (.inr ⟨dir, there, rfl, document⟩)
  · intro name dir there
    by_cases same : name = call.id.name
    · rw [same, here] at there
      cases there
      exact fits
    · rw [away same] at there
      exact (lineage.bound name dir there).trans_le more
  · intro id inode holds
    rcases holders id inode holds with before | ⟨-, rfl⟩
    · exact (lineage.heldBound id inode before).trans_le more
    · exact fits
  · intro id id' inode holds holds'
    rcases holders id inode holds with before | ⟨mine, same⟩
    · rcases holders id' inode holds' with before' | ⟨mine', same'⟩
      · exact lineage.one id id' inode before before'
      · rw [mine', own id (same' ▸ before)]
    · rcases holders id' inode holds' with before' | ⟨mine', -⟩
      · rw [mine, own id' (same ▸ before')]
      · rw [mine, mine']
  · intro name dir name' dir' there there' same
    by_cases mine : name = call.id.name
    · rw [mine, here] at there
      cases there
      by_cases mine' : name' = call.id.name
      · rw [mine, mine']
      · rw [away mine'] at there'
        rw [mine, alone name' dir' there' same.symm]
    · rw [away mine] at there
      by_cases mine' : name' = call.id.name
      · rw [mine', here] at there'
        cases there'
        rw [mine', alone name dir there same]
      · rw [away mine'] at there'
        exact lineage.unique name dir name' dir' there there' same
  · intro name dir there
    by_cases mine : name = call.id.name
    · rw [mine, here] at there
      cases there
      refine .inl ⟨call.id, mine, ?_⟩
      intro other holds
      rcases holders other _ holds with before | ⟨same, -⟩
      · exact own other before
      · exact same
    · rw [away mine] at there
      rcases lineage.named name dir there with ⟨id, same, only⟩ | ⟨id, ulid, same, holds⟩
      · refine .inl ⟨id, same, ?_⟩
        intro other holds
        rcases holders other _ holds with before | ⟨-, clash⟩
        · exact only other before
        · exact absurd (alone name dir there clash) mine
      · exact .inr ⟨id, ulid, same, (history id dir.inode).mpr (.inl holds)⟩

end Lineage

theorem shrinks_put {root : Root} {path : String} {dir : Option StoredDir}
    (less : ∀ new, dir = some new → ∃ old, root.dirAt path = some old ∧
      new.inode = old.inode ∧ (new.document = true → old.document = true)) :
    Shrinks root (root.put path dir) := by
  refine ⟨rfl, ?_⟩
  intro name new there
  by_cases same : name = path
  · subst same
    simp only [Root.put, Function.update_self] at there
    exact less new there
  · simp only [Root.put, ne_eq, same, not_false_eq_true, Function.update_of_ne] at there
    exact ⟨new, there, rfl, id⟩

theorem purge_shrinks (purge : String → Purge) (root : Root) (paths : List String) (count : Nat) :
    Shrinks root (purgeTombstones purge root paths count).1 := by
  induction paths generalizing root count with
  | nil => exact .refl root
  | cons path rest ih =>
      unfold purgeTombstones
      cases purge path with
      | removed => exact (shrinks_put fun new there => by cases there).trans (ih _ _)
      | stuck documentLeft =>
          refine shrinks_put fun new there => ?_
          obtain ⟨old, before, rfl⟩ := Option.map_eq_some_iff.mp there
          exact ⟨old, before, rfl, fun document => (Bool.and_eq_true_iff.mp document).1⟩

theorem purge_elsewhere (purge : String → Purge) (root : Root) {paths : List String} (count : Nat)
    {name : String} (elsewhere : name ∉ paths) :
    (purgeTombstones purge root paths count).1.dirAt name = root.dirAt name := by
  induction paths generalizing root count with
  | nil => rfl
  | cons path rest ih =>
      have other : name ≠ path := fun same => elsewhere (same ▸ List.mem_cons_self)
      unfold purgeTombstones
      cases purge path with
      | removed =>
          rw [ih _ _ fun member => elsewhere (List.mem_cons_of_mem _ member)]
          exact Function.update_of_ne other _ _
      | stuck documentLeft => exact Function.update_of_ne other _ _

theorem prefix_of_collected {root : Root} {listing : List String} {namePrefix name : String}
    (member : name ∈ collectTombstones root listing namePrefix) :
    namePrefix.toList <+: name.toList ∧ ∃ dir, root.dirAt name = some dir := by
  obtain ⟨present, starts⟩ := Bool.and_eq_true_iff.mp (List.mem_filter.mp member).2
  exact ⟨List.isPrefixOf_iff_prefix.mp starts, Option.isSome_iff_exists.mp present⟩

theorem reap_shrinks (root : Root) (call : DestroyCall) :
    Shrinks root (reapTombstones root call).1 := purge_shrinks _ _ _ _

theorem reap_elsewhere (root : Root) (call : DestroyCall) {name : String}
    (other : ¬ (tombstonePrefix call.id).toList <+: name.toList) :
    (reapTombstones root call).1.dirAt name = root.dirAt name :=
  purge_elsewhere _ _ _ fun member => other (prefix_of_collected member).1

inductive Destroys (root : Root) (call : DestroyCall) :
    Root × Except DestroyError DestroyOutcome → Prop where
  | missing (absent : root.hasEnvironment call.id = false)
      (none_ : collectTombstones root call.listing (tombstonePrefix call.id) = []) :
      Destroys root call (root, .error (.notFound call.id))
  | reaped (absent : root.hasEnvironment call.id = false)
      (some_ : collectTombstones root call.listing (tombstonePrefix call.id) ≠ []) :
      Destroys root call (reapTombstones root call)
  | kept (present : root.hasEnvironment call.id = true) (e : DestroyError) :
      Destroys root call (root, .error e)
  | renamed (present : root.hasEnvironment call.id = true)
      (vacant : root.dirAt (tombstoneName call.id call.ulid) = none) {after : Root}
      (result : Except DestroyError DestroyOutcome)
      (shrinks : Shrinks (renameToTombstone root call.id call.ulid) after)
      (elsewhere : ∀ name, name ≠ tombstoneName call.id call.ulid →
        ¬ (tombstonePrefix call.id).toList <+: name.toList →
        after.dirAt name = (renameToTombstone root call.id call.ulid).dirAt name) :
      Destroys root call (after, result)

theorem destroyEnvironment_destroys (root : Root) (call : DestroyCall) :
    Destroys root call (destroyEnvironment root call) := by
  unfold destroyEnvironment
  split
  · rename_i absent
    split
    · rename_i none_
      exact .missing absent none_
    · rename_i some_
      exact .reaped absent some_
  rename_i there
  have present : root.hasEnvironment call.id = true := by simpa using there
  cases call.guards with
  | error e => exact .kept present e
  | ok u =>
      dsimp only
      split
      · exact .kept present _
      rename_i free
      have vacant : root.dirAt (tombstoneName call.id call.ulid) = none := by simpa using free
      have fresh := purge_shrinks call.purge (renameToTombstone root call.id call.ulid)
        [tombstoneName call.id call.ulid] 0
      have others : ∀ name, name ≠ tombstoneName call.id call.ulid →
          (purgeTombstones call.purge (renameToTombstone root call.id call.ulid)
            [tombstoneName call.id call.ulid] 0).1.dirAt name =
              (renameToTombstone root call.id call.ulid).dirAt name := by
        intro name other
        exact purge_elsewhere _ _ _ (by simpa using other)
      split
      · exact .renamed present vacant _ fresh fun name other _ => others name other
      · refine .renamed present vacant _ (fresh.trans (reap_shrinks _ call)) ?_
        intro name other unmatched
        exact (reap_elsewhere _ call unmatched).trans (others name other)

theorem destroy_lineage {held : StoreId → Nat → Prop} {root : Root} (lineage : Lineage held root)
    (call : DestroyCall) : Lineage held (destroyEnvironment root call).1 := by
  have done := destroyEnvironment_destroys root call
  generalize destroyEnvironment root call = result at done ⊢
  cases done with
  | missing => exact lineage
  | reaped => exact lineage.shrink (reap_shrinks _ call)
  | kept => exact lineage
  | renamed present vacant result shrinks => exact (lineage.rename present).shrink shrinks

theorem held_append {calls : List RootCall} {call : RootCall} {id : StoreId} {inode : Nat} :
    Held (calls ++ [call]) id inode ↔ Held calls id inode ∨
      ∃ dir, (rootCalls.run Root.empty (calls ++ [call])).dirAt id.name = some dir ∧
        dir.inode = inode ∧ dir.document = true := by
  constructor
  · rintro ⟨earlier, begins, there⟩
    rcases List.prefix_concat_iff.mp begins with rfl | before
    · exact .inr there
    · exact .inl ⟨earlier, before, there⟩
  · rintro (⟨earlier, before, there⟩ | now)
    · exact ⟨earlier, before.trans (List.prefix_append _ _), there⟩
    · exact ⟨_, List.prefix_rfl, now⟩

theorem run_lineage (calls : List RootCall) :
    Lineage (Held calls) (rootCalls.run Root.empty calls) := by
  induction calls using List.reverseRecOn with
  | nil =>
      have nobody : ∀ id inode, ¬ Held [] id inode := by
        rintro id inode ⟨earlier, begins, dir, there, -⟩
        rw [List.prefix_nil.mp begins] at there
        cases there
      refine ⟨?_, ?_, fun id inode holds => absurd holds (nobody id inode),
        fun id id' inode holds => absurd holds (nobody id inode), ?_, ?_⟩
      · intro id dir there
        cases there
      · intro name dir there
        cases there
      · intro name dir name' dir' there
        cases there
      · intro name dir there
        cases there
  | append_singleton calls call ih =>
      have step : rootCalls.run Root.empty (calls ++ [call]) =
          rootCalls.step (rootCalls.run Root.empty calls) call :=
        rootCalls.run_append _ _ _
      cases call with
      | create call =>
          rw [step]
          refine ih.create call fun id inode => ?_
          rw [held_append, step]
          rfl
      | destroy call =>
          have kept : Lineage (Held calls)
              (rootCalls.run Root.empty (calls ++ [.destroy call])) := by
            rw [step]
            exact destroy_lineage ih call
          -- A destroy makes no document appear.
          have same : ∀ id inode, Held (calls ++ [.destroy call]) id inode ↔ Held calls id inode := by
            intro id inode
            rw [held_append]
            constructor
            · rintro (before | ⟨dir, there, rfl, document⟩)
              · exact before
              · exact kept.seen id dir there document
            · exact .inl
          have history : Held (calls ++ [.destroy call]) = Held calls := by
            funext id inode
            exact propext (same id inode)
          rw [history]
          exact kept

section Contained

variable {calls : List RootCall}

/-- A directory under a name that a destroy looks for is its own environment's. -/
theorem held_of_collected {id : StoreId} (clear : Clear calls id) {name : String}
    {dir : StoredDir} (there : (rootCalls.run Root.empty calls).dirAt name = some dir)
    (starts : (tombstonePrefix id).toList <+: name.toList) : Held calls id dir.inode := by
  rcases (run_lineage calls).named name dir there with ⟨other, rfl, -⟩ | ⟨other, ulid, rfl, holds⟩
  · exact absurd starts (not_prefix_name id other)
  · by_cases same : other = id
    · rwa [same] at holds
    · have left := clear other same (cut_of_same_start starts) _ dir there holds
      exact absurd left.symm (name_ne_tombstone _ _ _)

theorem contained_of_clear {call : DestroyCall} (clear : Clear calls call.id) :
    Contained calls call := by
  have lineage := run_lineage calls
  have own : ∀ name dir, (rootCalls.run Root.empty calls).dirAt name = some dir →
      (destroyEnvironment (rootCalls.run Root.empty calls) call).1.dirAt name ≠ some dir →
      Held calls call.id dir.inode := by
    intro name dir there changed
    by_cases starts : (tombstonePrefix call.id).toList <+: name.toList
    · exact held_of_collected clear there starts
    have done := destroyEnvironment_destroys (rootCalls.run Root.empty calls) call
    generalize destroyEnvironment (rootCalls.run Root.empty calls) call = result at done changed
    cases done with
    | missing => exact absurd there changed
    | reaped =>
        rw [reap_elsewhere _ call starts] at changed
        exact absurd there changed
    | kept => exact absurd there changed
    | renamed present vacant result shrinks elsewhere =>
        have aside : name ≠ tombstoneName call.id call.ulid := by
          rintro rfl
          rw [vacant] at there
          cases there
        by_cases mine : name = call.id.name
        · subst mine
          refine lineage.seen call.id dir there ?_
          simpa [Root.hasEnvironment, there] using present
        · have same : (renameToTombstone (rootCalls.run Root.empty calls) call.id
              call.ulid).dirAt name = (rootCalls.run Root.empty calls).dirAt name := by
            simp [renameToTombstone, Root.put, mine, aside]
          rw [elsewhere name aside starts, same] at changed
          exact absurd there changed
  refine ⟨own, ?_, ?_⟩
  · intro other different name dir there holds
    by_contra changed
    exact different (lineage.one _ _ _ holds (own name dir there changed))
  · intro never
    have absent : (rootCalls.run Root.empty calls).hasEnvironment call.id = false := by
      cases there : (rootCalls.run Root.empty calls).dirAt call.id.name with
      | none => simp [Root.hasEnvironment, there]
      | some dir =>
          cases document : dir.document with
          | false => simp [Root.hasEnvironment, there, document]
          | true => exact absurd (lineage.seen _ dir there document) (never _)
    have none_ : collectTombstones (rootCalls.run Root.empty calls) call.listing
        (tombstonePrefix call.id) = [] := by
      refine List.eq_nil_iff_forall_not_mem.mpr fun name member => ?_
      obtain ⟨starts, dir, there⟩ := prefix_of_collected member
      exact never _ (held_of_collected clear there starts)
    rw [destroyEnvironment, if_pos absent, if_pos none_]

/-- In every run whose destroys find no tombstone of another environment with the same
first 128 characters, every destroy keeps to its own environment. -/
theorem destroys_contained (calls : List RootCall)
    (clear : ∀ before call, before ++ [.destroy call] <+: calls → Clear before call.id) :
    ∀ before call, before ++ [.destroy call] <+: calls → Contained before call := by
  intro before call begins
  exact contained_of_clear (clear before call begins)

end Contained

theorem destroy_canonical {root : Root} {call : DestroyCall} {id : StoreId} {dir : StoredDir}
    (there : (destroyEnvironment root call).1.dirAt id.name = some dir) :
    ∃ old, root.dirAt id.name = some old := by
  have done := destroyEnvironment_destroys root call
  generalize destroyEnvironment root call = result at done there
  cases done with
  | missing => exact ⟨dir, there⟩
  | reaped =>
      obtain ⟨old, before, -⟩ := (reap_shrinks root call).each _ _ there
      exact ⟨old, before⟩
  | kept => exact ⟨dir, there⟩
  | renamed present vacant result shrinks =>
      obtain ⟨old, before, -⟩ := shrinks.each _ _ there
      obtain ⟨-, ⟨renamed, -⟩ | ⟨-, kept⟩⟩ := dirAt_renameToTombstone before
      · exact absurd renamed (name_ne_tombstone _ _ _)
      · exact ⟨old, kept⟩

theorem created_of_dirAt {calls : List RootCall} {id : StoreId} {dir : StoredDir}
    (there : (rootCalls.run Root.empty calls).dirAt id.name = some dir) :
    ∃ call, .create call ∈ calls ∧ call.id = id := by
  induction calls using List.reverseRecOn generalizing dir with
  | nil => cases there
  | append_singleton calls call ih =>
      rw [rootCalls.run_append] at there
      have before : (∃ old, (rootCalls.run Root.empty calls).dirAt id.name = some old) →
          ∃ call', .create call' ∈ calls ++ [call] ∧ call'.id = id := by
        rintro ⟨old, earlier⟩
        obtain ⟨call', member, same⟩ := ih earlier
        exact ⟨call', List.mem_append_left _ member, same⟩
      cases call with
      | create call =>
          by_cases mine : id = call.id
          · exact ⟨call, by simp, mine.symm⟩
          · obtain ⟨made, dirAt, -⟩ := createEnvironment_eq (rootCalls.run Root.empty calls) call
            change (createEnvironment _ call).dirAt id.name = some dir at there
            rw [dirAt, Function.update_of_ne fun same => mine (StoreId.name_injective same)] at there
            exact before ⟨dir, there⟩
      | destroy call => exact before (destroy_canonical there)

theorem clear_of_separated {calls : List RootCall} {id : StoreId}
    (separated : ∀ call, .create call ∈ calls → call.id ≠ id →
      call.id.name.toList.take 128 ≠ id.name.toList.take 128) : Clear calls id := by
  intro other different same name dir _ holds
  obtain ⟨earlier, begins, dir', there, -⟩ := holds
  obtain ⟨call, member, rfl⟩ := created_of_dirAt there
  exact absurd same (separated call (begins.subset member) different)

/-- The environment is created, and destroyed with a purge that gets stuck. -/
def stuckDestroy (id : StoreId) (ulid : Ulid) : List RootCall :=
  [.create ⟨id, true⟩, .destroy ⟨id, .ok (), ulid, [], fun _ => .stuck true⟩]

def laterDestroy (first : StoreId) (ulid : Ulid) (id : StoreId) : DestroyCall :=
  ⟨id, .ok (), ulid + 1, [tombstoneName first ulid], fun _ => .removed⟩

section SharedBeginning

variable {first : StoreId}

/-- Only the tombstone is left. -/
theorem run_stuckDestroy (id : StoreId) (ulid : Ulid) :
    rootCalls.run Root.empty (stuckDestroy id ulid) =
      ⟨Function.update (fun _ => none) (tombstoneName id ulid) (some ⟨0, true⟩), 1⟩ := by
  have away : tombstoneName id ulid ≠ id.name := (name_ne_tombstone id id ulid).symm
  have created : createEnvironment Root.empty ⟨id, true⟩ =
      ⟨Function.update (fun _ => none) id.name (some (⟨0, true⟩ : StoredDir)), 1⟩ := rfl
  have dirAt : Function.update (Function.update (Function.update (fun _ => none) id.name
      (some (⟨0, true⟩ : StoredDir))) (tombstoneName id ulid) (some ⟨0, true⟩)) id.name none =
      Function.update (fun _ => none) (tombstoneName id ulid) (some ⟨0, true⟩) := by
    funext name
    by_cases own : name = id.name
    · simp [own, away.symm]
    · by_cases renamed : name = tombstoneName id ulid
      · simp [renamed, away]
      · simp [own, renamed]
  change (destroyEnvironment (createEnvironment Root.empty ⟨id, true⟩) _).1 = _
  rw [created]
  simp [destroyEnvironment, Root.hasEnvironment, purgeTombstones, renameToTombstone, Root.put, away,
    dirAt]

theorem dirAt_stuckDestroy (id : StoreId) (ulid : Ulid) :
    (rootCalls.run Root.empty (stuckDestroy id ulid)).dirAt (tombstoneName id ulid) =
      some ⟨0, true⟩ := by
  rw [run_stuckDestroy]
  simp

theorem tombstone_starts {id : StoreId} (ulid : Ulid)
    (cut : first.name.toList.take 128 = id.name.toList.take 128) :
    (tombstonePrefix id).toList <+: (tombstoneName first ulid).toList := by
  rw [tombstonePrefix_toList, tombstoneName_toList]
  refine ⟨ulid.toChars, ?_⟩
  simp [stem, cut]

theorem laterDestroy_eq {id : StoreId} (ulid : Ulid)
    (cut : first.name.toList.take 128 = id.name.toList.take 128) :
    destroyEnvironment (rootCalls.run Root.empty (stuckDestroy first ulid))
        (laterDestroy first ulid id) =
      (⟨fun _ => none, 1⟩, .ok ⟨id.name, 1⟩) := by
  have away : id.name ≠ tombstoneName first ulid := name_ne_tombstone id first ulid
  have starts := List.isPrefixOf_iff_prefix.mpr (tombstone_starts ulid cut)
  rw [run_stuckDestroy]
  simp [destroyEnvironment, Root.hasEnvironment, away, laterDestroy, collectTombstones, starts,
    reapTombstones, purgeTombstones, Root.put, Except.map]

theorem held_stuckDestroy (id : StoreId) (ulid : Ulid) : Held (stuckDestroy id ulid) id 0 := by
  refine ⟨(stuckDestroy id ulid).take 1, List.take_prefix _ _, ⟨0, true⟩, ?_, rfl, rfl⟩
  change Function.update (fun _ => none) id.name (some (⟨0, true⟩ : StoredDir)) id.name = _
  rw [Function.update_self]

end SharedBeginning

def longName (last : Char) : String := String.ofList (List.replicate 128 'a' ++ [last])

theorem longName_toList (last : Char) :
    (longName last).toList = List.replicate 128 'a' ++ [last] := String.toList_ofList

theorem safe_longName {last : Char} (plain : last.isDigit = true) :
    safeEnvSegment ⟨longName last⟩ = true := by
  have long : (longName last).toList.length = 129 := by simp [longName_toList]
  have ne : ∀ text : String, text.toList.length < 129 → longName last ≠ text := by
    intro text short same
    rw [same] at long
    omega
  have other : ∀ c : Char, c.isDigit = false → last ≠ c := by
    rintro c unlike rfl
    rw [plain] at unlike
    cases unlike
  simp [safeEnvSegment, longName_toList, ne "" (by decide), ne "." (by decide),
    ne ".." (by decide), other '/' rfl, other '\\' rfl, other ':' rfl, other '\x00' rfl]

def firstLong : StoreId where
  id := ⟨longName '1'⟩
  charset := by simp [longName_toList]
  safe := safe_longName rfl

def secondLong : StoreId where
  id := ⟨longName '2'⟩
  charset := by simp [longName_toList]
  safe := safe_longName rfl

theorem firstLong_ne_secondLong : firstLong ≠ secondLong := by
  intro same
  have last := congrArg (fun id => id.name.toList.getLast?) same
  simp [StoreId.name, firstLong, secondLong, longName_toList] at last

/-- Destroying the second environment, which never was, succeeds and removes what was left
of the first. -/
theorem shared_beginning_reaped :
    Held (stuckDestroy firstLong 5) firstLong 0 ∧
      (destroyEnvironment (rootCalls.run Root.empty (stuckDestroy firstLong 5))
        (laterDestroy firstLong 5 secondLong)).2 = .ok ⟨longName '2', 1⟩ ∧
      ¬ Contained (stuckDestroy firstLong 5) (laterDestroy firstLong 5 secondLong) := by
  have cut : firstLong.name.toList.take 128 = secondLong.name.toList.take 128 := by
    simp [StoreId.name, firstLong, secondLong, longName_toList]
  have held := held_stuckDestroy firstLong 5
  have result := laterDestroy_eq 5 cut
  refine ⟨held, congrArg Prod.snd result, ?_⟩
  intro contained
  have kept := contained.others firstLong firstLong_ne_secondLong _ _
    (dirAt_stuckDestroy firstLong 5) held
  rw [result] at kept
  cases kept

/-- The first environment's own tombstone is reaped by its own destroy. -/
theorem own_tombstone_reaped :
    (destroyEnvironment (rootCalls.run Root.empty (stuckDestroy firstLong 5))
        (laterDestroy firstLong 5 firstLong)).2 = .ok ⟨longName '1', 1⟩ ∧
      ∀ before call,
        before ++ [.destroy call] <+:
          stuckDestroy firstLong 5 ++ [.destroy (laterDestroy firstLong 5 firstLong)] →
        Contained before call := by
  refine ⟨congrArg Prod.snd (laterDestroy_eq 5 rfl), destroys_contained _ ?_⟩
  intro before call begins
  refine clear_of_separated fun created member different => ?_
  exfalso
  have inside := begins.subset (List.mem_append_left _ member)
  have destroyed := begins.subset (List.mem_append_right before (List.mem_singleton_self _))
  simp only [stuckDestroy, List.cons_append, List.nil_append, List.mem_cons, RootCall.create.injEq,
    RootCall.destroy.injEq, reduceCtorEq, List.not_mem_nil, or_false, false_or] at inside destroyed
  rw [inside] at different
  rcases destroyed with rfl | rfl <;> exact different rfl

end GreenticDeployer.Local
