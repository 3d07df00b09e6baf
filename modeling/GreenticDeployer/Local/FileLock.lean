import GreenticDeployer.Lib.Runs
import Mathlib.Logic.Function.Basic

/-!
# The environment's file lock across a destroy

Each environment directory holds a `.lock` file. A writer opens it, takes the
exclusive lock of its inode and compares that inode with the one now found at
the path. A destroy renames the directory away, lock file included, while
others may be blocked on the inode it takes along. The clients interleave at
the granularity of single file operations.
-/

set_option maxHeartbeats 200000

namespace GreenticDeployer.Local

/-- What a directory of the store holds: the inode of its `.lock` file and its
`environment.json`, each only once somebody has created it. -/
structure Tree (D : Type) where
  lock : Option Nat
  environment : Option D
  deriving DecidableEq

/-- Who asks for the lock: `transact` and the `save` methods (`EnvFlock::acquire`),
a caller of `EnvFlock::try_acquire`, or `destroy_environment`. -/
inductive LockCall
  | transact
  | tryTransact
  | destroy
  deriving DecidableEq

def maxLockRetries : Nat := 64

/-- Where a client stands in its call. `attempt` counts the rounds of the
staleness loop; the inode is the one its descriptor is open on. -/
inductive Phase
  | idle
  | opening (call : LockCall) (attempt : Nat)
  | parentReady (call : LockCall) (attempt : Nat)
  | opened (call : LockCall) (attempt inode : Nat)
  | locked (call : LockCall) (attempt inode : Nat)
  | acquired (call : LockCall) (inode : Nat)
  | rechecked (inode : Nat)
  | renamed (inode : Nat)
  | purging
  deriving DecidableEq

namespace Phase

/-- The inode a client's descriptor is open on. -/
@[grind =] def inode : Phase → Option Nat
  | opened _ _ inode | locked _ _ inode | acquired _ inode | rechecked inode | renamed inode =>
    some inode
  | idle | opening _ _ | parentReady _ _ | purging => none

@[grind =] def lockedInode : Phase → Option Nat
  | locked _ _ inode | acquired _ inode | rechecked inode | renamed inode => some inode
  | idle | opening _ _ | parentReady _ _ | opened _ _ _ | purging => none

/-- The inode a client has found at the canonical path after locking it; from
here on it owns an `EnvFlock`. -/
@[grind =] def checkedInode : Phase → Option Nat
  | acquired _ inode | rechecked inode | renamed inode => some inode
  | idle | opening _ _ | parentReady _ _ | opened _ _ _ | locked _ _ _ | purging => none

/-- Past the check and, in a destroy, before the rename. -/
@[grind =] def guardedInode : Phase → Option Nat
  | acquired _ inode | rechecked inode => some inode
  | idle | opening _ _ | parentReady _ _ | opened _ _ _ | locked _ _ _ | renamed _ | purging => none

theorem lockedInode_of_guardedInode {phase : Phase} {inode : Nat}
    (guarded : phase.guardedInode = some inode) : phase.lockedInode = some inode := by
  cases phase <;> grind

theorem guardedInode_of_bare {phase : Phase} (bare : phase.lockedInode = none) :
    phase.guardedInode = none := by
  cases phase <;> grind

theorem checkedInode_of_guardedInode {phase : Phase} {inode : Nat}
    (guarded : phase.guardedInode = some inode) : phase.checkedInode = some inode := by
  cases phase <;> grind

theorem guardedInode_or_renamed {phase : Phase} {inode : Nat}
    (checked : phase.checkedInode = some inode) :
    phase.guardedInode = some inode ∨ phase = .renamed inode := by
  cases phase <;> grind

end Phase

/-- The directory at the environment's canonical path, the tombstones beside
it, the kernel's table of lock owners, and the clients. -/
structure LockState (P D : Type) where
  canonical : Option (Tree D)
  tombstones : List (Tree D)
  owner : Nat → Option P
  phase : P → Phase

/-- One file operation of one client. `leave` is every early return (an I/O
error, a refused teardown, the end of the process): the descriptor closes. -/
inductive LockAction (P D : Type)
  | start (client : P) (call : LockCall)
  | createParent (client : P)
  | openFile (client : P) (created : Nat)
  | lock (client : P)
  | checkStale (client : P)
  | save (client : P) (document : D)
  | recheck (client : P)
  | rename (client : P)
  | dropGuard (client : P)
  | purge (client : P) (position : Nat)
  | leave (client : P)

def LockAction.client {P D : Type} : LockAction P D → P
  | start client _ | createParent client | openFile client _ | lock client | checkStale client
  | save client _ | recheck client | rename client | dropGuard client | purge client _
  | leave client => client

namespace LockState

variable {P D : Type} [DecidableEq P]

def moveTo (state : LockState P D) (client : P) (next : Phase) : LockState P D :=
  { state with phase := Function.update state.phase client next }

/-- Closing a descriptor gives up the lock it holds, if it holds one. -/
def close (state : LockState P D) (client : P) : LockState P D :=
  match (state.phase client).lockedInode with
  | some inode => { state with owner := Function.update state.owner inode none }
  | none => state

def exit (state : LockState P D) (client : P) : LockState P D :=
  (state.close client).moveTo client .idle

def environmentExists (state : LockState P D) : Bool :=
  (state.canonical.bind Tree.environment).isSome

/-- `is_stale`: nothing at the path any more, or another inode. -/
def isStale (state : LockState P D) (inode : Nat) : Bool :=
  state.canonical.bind Tree.lock != some inode

/-- A destroy of an environment that has no document takes no lock: it reports
it missing, or reaps the tombstones left by an earlier one. -/
def start (state : LockState P D) (client : P) (call : LockCall) : LockState P D :=
  match state.phase client with
  | .idle =>
    match call with
    | .destroy =>
      if state.environmentExists then state.moveTo client (.opening call 0)
      else if state.tombstones.isEmpty then state
      else state.moveTo client .purging
    | .transact | .tryTransact => state.moveTo client (.opening call 0)
  | _ => state

/-- `create_dir_all` of the lock file's parent. -/
def createParent (state : LockState P D) (client : P) : LockState P D :=
  match state.phase client with
  | .opening call attempt =>
    { state with canonical := some (state.canonical.getD ⟨none, none⟩) }.moveTo client
      (.parentReady call attempt)
  | _ => state

/-- Opening creates a missing file, under the inode number the system picks; it
fails when the directory was renamed away since `create_dir_all`. -/
def openFile (state : LockState P D) (client : P) (created : Nat) : LockState P D :=
  match state.phase client with
  | .parentReady call attempt =>
    match state.canonical with
    | none => state.moveTo client .idle
    | some tree =>
      match tree.lock with
      | some inode => state.moveTo client (.opened call attempt inode)
      | none =>
        { state with canonical := some { tree with lock := some created } }.moveTo client
          (.opened call attempt created)
  | _ => state

/-- `lock_exclusive` waits while the inode has an owner; `try_lock_exclusive`
gives up at once. -/
def lock (state : LockState P D) (client : P) : LockState P D :=
  match state.phase client with
  | .opened call attempt inode =>
    match state.owner inode with
    | none =>
      { state with owner := Function.update state.owner inode (some client) }.moveTo client
        (.locked call attempt inode)
    | some _ => if call = .tryTransact then state.moveTo client .idle else state
  | _ => state

def checkStale (state : LockState P D) (client : P) : LockState P D :=
  match state.phase client with
  | .locked call attempt inode =>
    if state.isStale inode then
      if attempt + 1 < maxLockRetries then
        (state.close client).moveTo client (.opening call (attempt + 1))
      else state.exit client
    else state.moveTo client (.acquired call inode)
  | _ => state

/-- A save writes by path: it goes to whatever directory is at the canonical
path now, and creates one where there is none. -/
def save (state : LockState P D) (client : P) (document : D) : LockState P D :=
  match state.phase client with
  | .acquired .transact _ | .acquired .tryTransact _ =>
    { state with
      canonical := some { state.canonical.getD ⟨none, none⟩ with environment := some document } }
  | _ => state

def recheck (state : LockState P D) (client : P) : LockState P D :=
  match state.phase client with
  | .acquired .destroy inode =>
    if state.environmentExists then state.moveTo client (.rechecked inode) else state.exit client
  | _ => state

def rename (state : LockState P D) (client : P) : LockState P D :=
  match state.phase client with
  | .rechecked inode =>
    match state.canonical with
    | some tree =>
      { state with canonical := none, tombstones := tree :: state.tombstones }.moveTo client
        (.renamed inode)
    | none => state.exit client
  | _ => state

def dropGuard (state : LockState P D) (client : P) : LockState P D :=
  match state.phase client with
  | .acquired .transact _ | .acquired .tryTransact _ => state.exit client
  | .renamed _ => (state.close client).moveTo client .purging
  | _ => state

def purge (state : LockState P D) (client : P) (position : Nat) : LockState P D :=
  match state.phase client with
  | .purging => { state with tombstones := state.tombstones.eraseIdx position }
  | _ => state

def step (state : LockState P D) : LockAction P D → LockState P D
  | .start client call => state.start client call
  | .createParent client => state.createParent client
  | .openFile client created => state.openFile client created
  | .lock client => state.lock client
  | .checkStale client => state.checkStale client
  | .save client document => state.save client document
  | .recheck client => state.recheck client
  | .rename client => state.rename client
  | .dropGuard client => state.dropGuard client
  | .purge client position => state.purge client position
  | .leave client => state.exit client

/-- An inode number in use: linked from a directory, or open somewhere. The
system gives a new file any other number, one freed earlier included. -/
def InodeUsed (state : LockState P D) (inode : Nat) : Prop :=
  state.canonical.bind Tree.lock = some inode ∨
    (∃ tree ∈ state.tombstones, tree.lock = some inode) ∨
    ∃ client, (state.phase client).inode = some inode

/-- No call under way, any directories on disk. -/
def Quiet (state : LockState P D) : Prop :=
  (∀ client, state.phase client = .idle) ∧ ∀ inode, state.owner inode = none

def HoldsChecked (state : LockState P D) (client : P) (inode : Nat) : Prop :=
  state.owner inode = some client ∧ (state.phase client).checkedInode = some inode

def AtCanonical (state : LockState P D) (inode : Nat) : Prop :=
  state.canonical.bind Tree.lock = some inode

end LockState

/-- Any number of clients, any order of their file operations. -/
def envLocks (P D : Type) [DecidableEq P] : Lib.System (LockState P D) (LockAction P D) where
  step := LockState.step
  allowed := fun state action =>
    match action with
    | .openFile _ created => ¬ state.InodeUsed created
    | _ => True

namespace LockState

variable {P D : Type}

@[simp]
theorem close_phase (state : LockState P D) (client : P) :
    (state.close client).phase = state.phase := by
  unfold close
  split <;> rfl

@[simp]
theorem close_canonical (state : LockState P D) (client : P) :
    (state.close client).canonical = state.canonical := by
  unfold close
  split <;> rfl

theorem close_of_bare {state : LockState P D} {client : P}
    (bare : (state.phase client).lockedInode = none) : state.close client = state := by
  simp [close, bare]

/-- Locks taken are owned; a client past the check that has not renamed the
directory finds its inode at the canonical path, and one that has does not. -/
structure Guarded (state : LockState P D) : Prop where
  owned : ∀ client inode, (state.phase client).lockedInode = some inode →
    state.owner inode = some client
  current : ∀ client inode, (state.phase client).guardedInode = some inode →
    state.AtCanonical inode
  moved : ∀ client inode, state.phase client = .renamed inode → ¬ state.AtCanonical inode

namespace Guarded

variable {state : LockState P D} {client : P}

theorem same_client (guarded : state.Guarded) {left right : P} {first second : Nat}
    (leftHolds : (state.phase left).guardedInode = some first)
    (rightHolds : (state.phase right).guardedInode = some second) : left = right := by
  have here := guarded.current left first leftHolds
  have there := guarded.current right second rightHolds
  have same : first = second := Option.some.inj (here.symm.trans there)
  have leftOwns := guarded.owned left first (Phase.lockedInode_of_guardedInode leftHolds)
  have rightOwns := guarded.owned right second (Phase.lockedInode_of_guardedInode rightHolds)
  rw [same] at leftOwns
  exact Option.some.inj (leftOwns.symm.trans rightOwns)

theorem close_owner (guarded : state.Guarded) {other : P} {inode : Nat} (differs : other ≠ client)
    (owns : state.owner inode = some other) : (state.close client).owner inode = some other := by
  unfold close
  split
  · next held taken =>
      have heldBy := guarded.owned client held taken
      have apart : inode ≠ held := by
        rintro rfl
        exact differs (Option.some.inj (owns.symm.trans heldBy))
      simp [Function.update_of_ne apart, owns]
  · exact owns

theorem of_quiet (quiet : state.Quiet) : state.Guarded where
  owned := by simp [quiet.1, Phase.lockedInode]
  current := by simp [quiet.1, Phase.guardedInode]
  moved := by simp [quiet.1]

end Guarded

def GuardsCanonical (state : LockState P D) (client : P) : Prop :=
  ∃ inode, state.HoldsChecked client inode ∧ state.AtCanonical inode

theorem guardsCanonical_iff {state : LockState P D} (guarded : state.Guarded) (client : P) :
    state.GuardsCanonical client ↔ ∃ inode, (state.phase client).guardedInode = some inode := by
  constructor
  · rintro ⟨inode, holds, found⟩
    rcases Phase.guardedInode_or_renamed holds.2 with kept | gone
    · exact ⟨inode, kept⟩
    · exact absurd found (guarded.moved client inode gone)
  · rintro ⟨inode, holds⟩
    have checked : (state.phase client).checkedInode = some inode :=
      Phase.checkedInode_of_guardedInode holds
    have owns := guarded.owned client inode (Phase.lockedInode_of_guardedInode holds)
    exact ⟨inode, ⟨owns, checked⟩, guarded.current client inode holds⟩

/-- The operations that change an environment: a save, and a destroy's rename,
each in a phase in which the code performs it. -/
def Mutates (state : LockState P D) : LockAction P D → Prop
  | .save client _ =>
    ∃ inode, state.phase client = .acquired .transact inode ∨
      state.phase client = .acquired .tryTransact inode
  | .rename client => ∃ inode, state.phase client = .rechecked inode
  | _ => False

theorem guardsCanonical_of_mutates {state : LockState P D} (guarded : state.Guarded)
    {action : LockAction P D} (mutates : state.Mutates action) :
    state.GuardsCanonical action.client := by
  rw [guardsCanonical_iff guarded]
  cases action with
  | save client document =>
      obtain ⟨inode, standing | standing⟩ := mutates
      · exact ⟨inode, by simp [LockAction.client, standing, Phase.guardedInode]⟩
      · exact ⟨inode, by simp [LockAction.client, standing, Phase.guardedInode]⟩
  | rename client =>
      obtain ⟨inode, standing⟩ := mutates
      exact ⟨inode, by simp [LockAction.client, standing, Phase.guardedInode]⟩
  | _ => exact mutates.elim

variable [DecidableEq P]

@[simp]
theorem moveTo_canonical (state : LockState P D) (client : P) (next : Phase) :
    (state.moveTo client next).canonical = state.canonical := rfl

@[simp]
theorem moveTo_owner (state : LockState P D) (client : P) (next : Phase) :
    (state.moveTo client next).owner = state.owner := rfl

@[simp]
theorem moveTo_phase (state : LockState P D) (client : P) (next : Phase) :
    (state.moveTo client next).phase = Function.update state.phase client next := rfl

theorem getD_lock (canonical : Option (Tree D)) :
    (canonical.getD ⟨none, none⟩).lock = canonical.bind Tree.lock := by
  cases canonical <;> rfl

/-- Everything an operation of one client can do. -/
inductive Effect (state : LockState P D) (client : P) : LockState P D → Prop
  | stay : Effect state client state
  | unlock (next : Phase) (bare : next.lockedInode = none) :
      Effect state client ((state.close client).moveTo client next)
  | create (tree : Tree D) (next : Phase) (before : (state.phase client).lockedInode = none)
      (bare : next.lockedInode = none) (missing : state.canonical.bind Tree.lock = none)
      (same : tree.environment = state.canonical.bind Tree.environment)
      (fresh : ∀ inode, tree.lock = some inode → ¬ state.InodeUsed inode) :
      Effect state client ({ state with canonical := some tree }.moveTo client next)
  | take (call : LockCall) (attempt inode : Nat) (free : state.owner inode = none) :
      Effect state client
        ({ state with owner := Function.update state.owner inode (some client) }.moveTo client
          (.locked call attempt inode))
  | pass (call : LockCall) (attempt inode : Nat)
      (held : state.phase client = .locked call attempt inode) (current : state.AtCanonical inode) :
      Effect state client (state.moveTo client (.acquired call inode))
  | confirm (inode : Nat) (held : state.phase client = .acquired .destroy inode) :
      Effect state client (state.moveTo client (.rechecked inode))
  | write (inode : Nat) (document : D) (held : (state.phase client).guardedInode = some inode) :
      Effect state client
        { state with
          canonical :=
            some { state.canonical.getD ⟨none, none⟩ with environment := some document } }
  | retire (inode : Nat) (tree : Tree D) (held : state.phase client = .rechecked inode)
      (found : state.canonical = some tree) :
      Effect state client
        ({ state with canonical := none, tombstones := tree :: state.tombstones }.moveTo client
          (.renamed inode))
  | reap (tombstones : List (Tree D)) : Effect state client { state with tombstones }

theorem Effect.move {state : LockState P D} {client : P} {old : Phase} (next : Phase)
    (standing : state.phase client = old) (before : old.lockedInode = none)
    (bare : next.lockedInode = none) : Effect state client (state.moveTo client next) := by
  have unlocked : (state.phase client).lockedInode = none := by rw [standing, before]
  have effect : Effect state client ((state.close client).moveTo client next) := .unlock next bare
  rwa [close_of_bare unlocked] at effect

theorem start_effect (state : LockState P D) (client : P) (call : LockCall) :
    Effect state client (state.start client call) := by
  unfold start
  split
  · next standing =>
      cases call with
      | destroy =>
          simp only
          split
          · exact .move _ standing rfl rfl
          · split
            · exact .stay
            · exact .move _ standing rfl rfl
      | transact => exact .move _ standing rfl rfl
      | tryTransact => exact .move _ standing rfl rfl
  · exact .stay

theorem createParent_effect (state : LockState P D) (client : P) :
    Effect state client (state.createParent client) := by
  unfold createParent
  split
  · next call attempt standing =>
      cases present : state.canonical with
      | none =>
          refine .create _ _ (by rw [standing]; rfl) rfl (by simp [present]) (by simp [present]) ?_
          simp
      | some tree =>
          have same : { state with canonical := some tree } = state := by rw [← present]
          simp only [Option.getD_some, same]
          exact .move _ standing rfl rfl
  · exact .stay

theorem openFile_effect (state : LockState P D) (client : P) (created : Nat)
    (fresh : ¬ state.InodeUsed created) : Effect state client (state.openFile client created) := by
  unfold openFile
  split
  · next call attempt standing =>
      split
      · exact .move _ standing rfl rfl
      · next tree present =>
          split
          · exact .move _ standing rfl rfl
          · next missing =>
              refine .create _ _ (by rw [standing]; rfl) rfl (by simp [present, missing])
                (by simp [present]) ?_
              intro inode linked
              cases linked
              exact fresh
  · exact .stay

theorem lock_effect (state : LockState P D) (client : P) :
    Effect state client (state.lock client) := by
  unfold lock
  split
  · next call attempt inode standing =>
      split
      · next free => exact .take call attempt inode free
      · split
        · exact .move _ standing rfl rfl
        · exact .stay
  · exact .stay

theorem checkStale_effect (state : LockState P D) (client : P) :
    Effect state client (state.checkStale client) := by
  unfold checkStale
  split
  · next call attempt inode standing =>
      split
      · split
        · exact .unlock _ rfl
        · exact .unlock _ rfl
      · next current =>
          have found : state.AtCanonical inode := by simpa [isStale, AtCanonical] using current
          exact .pass call attempt inode standing found
  · exact .stay

theorem save_effect (state : LockState P D) (client : P) (document : D) :
    Effect state client (state.save client document) := by
  unfold save
  split
  · next inode standing => exact .write inode document (by rw [standing]; rfl)
  · next inode standing => exact .write inode document (by rw [standing]; rfl)
  · exact .stay

theorem recheck_effect (state : LockState P D) (client : P) :
    Effect state client (state.recheck client) := by
  unfold recheck
  split
  · next inode standing =>
      split
      · exact .confirm inode standing
      · exact .unlock _ rfl
  · exact .stay

theorem rename_effect (state : LockState P D) (client : P) :
    Effect state client (state.rename client) := by
  unfold rename
  split
  · next inode standing =>
      split
      · next tree found => exact .retire inode tree standing found
      · exact .unlock _ rfl
  · exact .stay

theorem dropGuard_effect (state : LockState P D) (client : P) :
    Effect state client (state.dropGuard client) := by
  unfold dropGuard
  split
  · exact .unlock _ rfl
  · exact .unlock _ rfl
  · exact .unlock _ rfl
  · exact .stay

theorem purge_effect (state : LockState P D) (client : P) (position : Nat) :
    Effect state client (state.purge client position) := by
  unfold purge
  split
  · exact .reap _
  · exact .stay

theorem step_effect (state : LockState P D) (action : LockAction P D)
    (allowed : (envLocks P D).allowed state action) :
    Effect state action.client ((envLocks P D).step state action) := by
  cases action with
  | start client call => exact start_effect state client call
  | createParent client => exact createParent_effect state client
  | openFile client created => exact openFile_effect state client created allowed
  | lock client => exact lock_effect state client
  | checkStale client => exact checkStale_effect state client
  | save client document => exact save_effect state client document
  | recheck client => exact recheck_effect state client
  | rename client => exact rename_effect state client
  | dropGuard client => exact dropGuard_effect state client
  | purge client position => exact purge_effect state client position
  | leave client => exact .unlock .idle rfl

namespace Guarded

variable {state next : LockState P D} {client : P}

theorem owned_effect (guarded : state.Guarded) (effect : Effect state client next) :
    ∀ other inode, (next.phase other).lockedInode = some inode →
      next.owner inode = some other := by
  intro other inode taken
  by_cases same : other = client
  · subst same
    cases effect with
    | stay => exact guarded.owned other inode taken
    | unlock phase bare => simp [bare] at taken
    | create tree phase before bare missing unchanged fresh => simp [bare] at taken
    | take call attempt created free =>
        simp only [moveTo_phase, Function.update_self, Phase.lockedInode, Option.some.injEq] at taken
        simp [taken]
    | pass call attempt held standing current =>
        have before := guarded.owned other held (by rw [standing]; rfl)
        simp_all [Phase.lockedInode]
    | confirm held standing =>
        have before := guarded.owned other held (by rw [standing]; rfl)
        simp_all [Phase.lockedInode]
    | write held document standing => exact guarded.owned other inode taken
    | retire held tree standing found =>
        have before := guarded.owned other held (by rw [standing]; rfl)
        simp_all [Phase.lockedInode]
    | reap tombstones => exact guarded.owned other inode taken
  · have before : (state.phase other).lockedInode = some inode := by
      cases effect <;> simp_all
    have owns := guarded.owned other inode before
    cases effect with
    | unlock phase bare => exact guarded.close_owner same owns
    | take call attempt created free =>
        have apart : inode ≠ created := by
          rintro rfl
          rw [free] at owns
          cases owns
        simp [Function.update_of_ne apart, owns]
    | stay => exact owns
    | create => exact owns
    | pass => exact owns
    | confirm => exact owns
    | write => exact owns
    | retire => exact owns
    | reap => exact owns

theorem current_effect (guarded : state.Guarded) (effect : Effect state client next) :
    ∀ other inode, (next.phase other).guardedInode = some inode → next.AtCanonical inode := by
  intro other inode holds
  by_cases same : other = client
  · subst same
    cases effect with
    | stay => exact guarded.current other inode holds
    | unlock phase bare => simp [Phase.guardedInode_of_bare bare] at holds
    | create tree phase before bare missing unchanged fresh =>
        simp [Phase.guardedInode_of_bare bare] at holds
    | take call attempt created free => simp [Phase.guardedInode] at holds
    | pass call attempt held standing found =>
        simp only [moveTo_phase, Function.update_self, Phase.guardedInode,
          Option.some.injEq] at holds
        exact holds ▸ found
    | confirm held standing =>
        have before := guarded.current other held (by rw [standing]; rfl)
        simp only [moveTo_phase, Function.update_self, Phase.guardedInode,
          Option.some.injEq] at holds
        exact holds ▸ before
    | write held document standing =>
        have before := guarded.current other inode holds
        simpa [AtCanonical, getD_lock] using before
    | retire held tree standing found => simp [Phase.guardedInode] at holds
    | reap tombstones => exact guarded.current other inode holds
  · have before : (state.phase other).guardedInode = some inode := by
      cases effect <;> simp_all
    have found := guarded.current other inode before
    cases effect with
    | create tree phase bareBefore bare missing unchanged fresh =>
        rw [AtCanonical, missing] at found
        cases found
    | write held document standing => simpa [AtCanonical, getD_lock] using found
    | retire held tree standing here =>
        have holder : (state.phase client).guardedInode = some held := by rw [standing]; rfl
        exact absurd (guarded.same_client before holder) same
    | unlock => simpa [AtCanonical] using found
    | stay => exact found
    | take => exact found
    | pass => exact found
    | confirm => exact found
    | reap => exact found

theorem moved_effect (guarded : state.Guarded) (effect : Effect state client next) :
    ∀ other inode, next.phase other = .renamed inode → ¬ next.AtCanonical inode := by
  intro other inode gone
  by_cases same : other = client
  · subst same
    cases effect with
    | stay => exact guarded.moved other inode gone
    | unlock phase bare =>
        simp only [moveTo_phase, Function.update_self] at gone
        subst gone
        cases bare
    | create tree phase before bare missing unchanged fresh =>
        simp only [moveTo_phase, Function.update_self] at gone
        subst gone
        cases bare
    | take call attempt created free => simp at gone
    | pass call attempt held standing found => simp at gone
    | confirm held standing => simp at gone
    | write held document standing =>
        have before := guarded.moved other inode gone
        simpa [AtCanonical, getD_lock] using before
    | retire held tree standing found => simp [AtCanonical]
    | reap tombstones => exact guarded.moved other inode gone
  · have before : state.phase other = .renamed inode := by
      cases effect <;> simp_all
    have away := guarded.moved other inode before
    cases effect with
    | create tree phase bareBefore bare missing unchanged fresh =>
        intro linked
        have open_elsewhere : (state.phase other).inode = some inode := by rw [before]; rfl
        exact fresh inode linked (.inr (.inr ⟨other, open_elsewhere⟩))
    | write held document standing => simpa [AtCanonical, getD_lock] using away
    | retire held tree standing here => simp [AtCanonical]
    | unlock => simpa [AtCanonical] using away
    | stay => exact away
    | take => exact away
    | pass => exact away
    | confirm => exact away
    | reap => exact away

theorem of_effect (guarded : state.Guarded) (effect : Effect state client next) : next.Guarded where
  owned := guarded.owned_effect effect
  current := guarded.current_effect effect
  moved := guarded.moved_effect effect

theorem canonical_kept (guarded : state.Guarded) (effect : Effect state client next) {other : P}
    {inode : Nat} (differs : other ≠ client)
    (holds : (state.phase other).guardedInode = some inode) : next.canonical = state.canonical := by
  have found := guarded.current other inode holds
  cases effect with
  | create tree phase before bare missing unchanged fresh =>
      rw [AtCanonical, missing] at found
      cases found
  | write held document standing => exact absurd (guarded.same_client holds standing) differs
  | retire held tree standing here =>
      have holder : (state.phase client).guardedInode = some held := by rw [standing]; rfl
      exact absurd (guarded.same_client holds holder) differs
  | unlock => simp
  | stay => rfl
  | take => rfl
  | pass => rfl
  | confirm => rfl
  | reap => rfl

theorem reachable {start : LockState P D} {actions : List (LockAction P D)} (quiet : start.Quiet)
    (admits : (envLocks P D).Admits start actions) :
    ∀ visited ∈ (envLocks P D).states start actions, visited.Guarded := by
  refine (envLocks P D).invariant Guarded ?_ start actions admits (of_quiet quiet)
  intro state action allowed guarded
  exact guarded.of_effect (step_effect state action allowed)

end Guarded

end LockState

section Exclusion

variable {P D : Type} [DecidableEq P]

/-- In every state of every interleaving at most one client guards the canonical
directory. Every other lock that passed its check belongs to a destroy past its
rename. Whoever saves or renames is the guarding client, and while there is one
the directory changes by its own operations only. -/
theorem env_lock_excludes_across_destroy (start : LockState P D) (actions : List (LockAction P D))
    (quiet : start.Quiet) (admits : (envLocks P D).Admits start actions) :
    ∀ visited ∈ (envLocks P D).states start actions,
      (∀ left right, visited.GuardsCanonical left → visited.GuardsCanonical right →
        left = right) ∧
      (∀ client inode, visited.HoldsChecked client inode → ¬ visited.AtCanonical inode →
        visited.phase client = .renamed inode) ∧
      (∀ action, visited.Mutates action → visited.GuardsCanonical action.client) ∧
      ∀ action, (envLocks P D).allowed visited action →
        ∀ client, visited.GuardsCanonical client → client ≠ action.client →
          ((envLocks P D).step visited action).canonical = visited.canonical := by
  intro visited member
  have guarded := LockState.Guarded.reachable quiet admits visited member
  refine ⟨?_, ?_, ?_, ?_⟩
  · intro left right leftGuards rightGuards
    obtain ⟨first, leftHolds⟩ := (LockState.guardsCanonical_iff guarded left).mp leftGuards
    obtain ⟨second, rightHolds⟩ := (LockState.guardsCanonical_iff guarded right).mp rightGuards
    exact guarded.same_client leftHolds rightHolds
  · intro client inode holds away
    rcases Phase.guardedInode_or_renamed holds.2 with kept | gone
    · exact absurd (guarded.current client inode kept) away
    · exact gone
  · intro action mutates
    exact LockState.guardsCanonical_of_mutates guarded mutates
  · intro action allowed client guards differs
    obtain ⟨inode, holds⟩ := (LockState.guardsCanonical_iff guarded client).mp guards
    exact guarded.canonical_kept (LockState.step_effect visited action allowed) differs holds

end Exclusion

/-- One environment on disk and nobody at work on it. -/
def settledDisk : LockState Bool Nat where
  canonical := some ⟨some 0, some 7⟩
  tombstones := []
  owner := fun _ => none
  phase := fun _ => .idle

theorem settledDisk_quiet : settledDisk.Quiet := by
  constructor <;> intros <;> rfl

/-- The destroy by one client up to its rename, then a second client that
creates the environment again. -/
def recreateDuringDestroy : List (LockAction Bool Nat) :=
  [.start false .destroy, .createParent false, .openFile false 1, .lock false, .checkStale false,
    .recheck false, .rename false, .start true .transact, .createParent true, .openFile true 1,
    .lock true, .checkStale true]

instance (state : LockState Bool Nat) (inode : Nat) : Decidable (state.InodeUsed inode) :=
  inferInstanceAs (Decidable (_ ∨ _ ∨ _))

instance (state : LockState Bool Nat) :
    ∀ action, Decidable ((envLocks Bool Nat).allowed state action)
  | .openFile _ created => inferInstanceAs (Decidable (¬ state.InodeUsed created))
  | .start _ _ | .createParent _ | .lock _ | .checkStale _ | .save _ _ | .recheck _ | .rename _
  | .dropGuard _ | .purge _ _ | .leave _ => .isTrue trivial

/-- Between its rename and the drop of its guard a destroy still holds the lock
it checked, on an inode that is no longer at the canonical path. -/
theorem two_checked_locks_during_destroy :
    ¬ ∀ actions, (envLocks Bool Nat).Admits settledDisk actions →
      ∀ visited ∈ (envLocks Bool Nat).states settledDisk actions,
        ∀ left right first second, visited.HoldsChecked left first →
          visited.HoldsChecked right second → left = right := by
  intro exclusive
  have admitted : (envLocks Bool Nat).Admits settledDisk recreateDuringDestroy := by decide
  have reached := (envLocks Bool Nat).run_mem_states settledDisk recreateDuringDestroy
  have destroyer : ((envLocks Bool Nat).run settledDisk recreateDuringDestroy).HoldsChecked
      false 0 := by constructor <;> decide
  have creator : ((envLocks Bool Nat).run settledDisk recreateDuringDestroy).HoldsChecked
      true 1 := by constructor <;> decide
  have same := exclusive _ admitted _ reached _ _ _ _ destroyer creator
  cases same

/-- After the rename the re-creating client is the one that guards the path. -/
theorem recreated_environment_is_guarded :
    ((envLocks Bool Nat).run settledDisk recreateDuringDestroy).GuardsCanonical true ∧
      ∀ client, ((envLocks Bool Nat).run settledDisk recreateDuringDestroy).GuardsCanonical
        client → client = true := by
  have admitted : (envLocks Bool Nat).Admits settledDisk recreateDuringDestroy := by decide
  have reached := (envLocks Bool Nat).run_mem_states settledDisk recreateDuringDestroy
  have guards : ((envLocks Bool Nat).run settledDisk recreateDuringDestroy).GuardsCanonical
      true := by
    refine ⟨1, ⟨?_, ?_⟩, ?_⟩
    · decide
    · decide
    · rfl
  have excludes := env_lock_excludes_across_destroy settledDisk recreateDuringDestroy
    settledDisk_quiet admitted _ reached
  exact ⟨guards, fun client other => excludes.1 client true other guards⟩

end GreenticDeployer.Local
