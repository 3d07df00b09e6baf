import GreenticDeployer.Sor.Ledger

/-!
# What the reconcile's calls keep

Every SoR object of the cluster and every route document of the store has its
entry in the ledger, before a call and after it; a call that could orphan one is
never made.
-/

set_option maxHeartbeats 200000

namespace GreenticDeployer.Sor

open Spec Lib
open Local (Turn)

namespace World

variable (world : World)

@[simp] theorem applied_self (manifest : Manifest) :
    (world.applied manifest).objects manifest.ref = some manifest.object := Function.update_self ..

theorem applied_of_ne {manifest : Manifest} {ref : ObjectRef} (other : ref ≠ manifest.ref) :
    (world.applied manifest).objects ref = world.objects ref := Function.update_of_ne other ..

@[simp] theorem deleted_self (ref : ObjectRef) : (world.deleted ref).objects ref = none :=
  Function.update_self ..

theorem deleted_of_ne {ref other : ObjectRef} (apart : other ≠ ref) :
    (world.deleted ref).objects other = world.objects other := Function.update_of_ne apart ..

@[simp] theorem stored_self (uri : SecretUri) (value : Option String) :
    (world.stored uri value).secrets uri = value := Function.update_self ..

theorem stored_of_ne {uri other : SecretUri} {value : Option String} (apart : other ≠ uri) :
    (world.stored uri value).secrets other = world.secrets other := Function.update_of_ne apart ..

theorem stored_none {uri other : SecretUri} (gone : world.secrets other = none) :
    (world.stored uri none).secrets other = none := by
  by_cases same : other = uri
  · rw [same, stored_self]
  · rwa [world.stored_of_ne same]

end World

/-- The ledger covers the cluster and the store. -/
structure Covered (envId : EnvId) (world : World) : Prop where
  objects : ∀ ref object unitId, world.objects ref = some object → object.sorUnit = some unitId →
    ∃ entry ∈ world.ledger, entry.unitId = unitId ∧
      ref ∈ sorObjectRefs unitId entry.namespaceName
  routes : ∀ sor, world.secrets (devStoreKey envId (routeRelPath sor)) ≠ none →
    ∃ entry ∈ world.ledger, entry.sor = sor

/-- The store's keys, but for route documents and what a run may delete, are as
they were. -/
def InputsKept (envId : EnvId) (before after : World) : Prop :=
  ∀ rel, NotRoute rel → ¬ Deletable before.units before.ledger rel →
    after.secrets (devStoreKey envId rel) = before.secrets (devStoreKey envId rel)

/-- The state of a run over `before`, between two of its calls, while the ledger
is the one given. -/
structure Underway (envId : EnvId) (before : World) (ledger : List AppliedSorUnit)
    (world : World) : Prop where
  units : world.units = before.units
  ledger : world.ledger = ledger
  covered : Covered envId world
  kept : InputsKept envId before world

namespace Underway

variable {envId : EnvId} {before world : World} {ledger : List AppliedSorUnit}

theorem start (covered : Covered envId before) : Underway envId before before.ledger before :=
  ⟨rfl, rfl, covered, fun _ _ _ => rfl⟩

theorem saved (underway : Underway envId before ledger world) {next : List AppliedSorUnit}
    (covers : Covered envId { world with ledger := next }) :
    Underway envId before next { world with ledger := next } :=
  ⟨underway.units, rfl, covers, underway.kept⟩

theorem deleted (underway : Underway envId before ledger world) (ref : ObjectRef) :
    Underway envId before ledger (world.deleted ref) := by
  refine ⟨underway.units, underway.ledger, ⟨?_, underway.covered.routes⟩, underway.kept⟩
  intro other object unitId found label
  by_cases same : other = ref
  · rw [same, World.deleted_self] at found
    cases found
  · rw [World.deleted_of_ne world same] at found
    exact underway.covered.objects other object unitId found label

theorem applied (underway : Underway envId before ledger world) {manifest : Manifest}
    (recorded : ∀ unitId, manifest.object.sorUnit = some unitId → ∃ entry ∈ ledger,
      entry.unitId = unitId ∧ manifest.ref ∈ sorObjectRefs unitId entry.namespaceName) :
    Underway envId before ledger (world.applied manifest) := by
  refine ⟨underway.units, underway.ledger, ⟨?_, underway.covered.routes⟩, underway.kept⟩
  intro other object unitId found label
  by_cases same : other = manifest.ref
  · rw [same, World.applied_self] at found
    cases found
    have entries := recorded unitId label
    rw [← underway.ledger] at entries
    exact same ▸ entries
  · rw [World.applied_of_ne world same] at found
    exact underway.covered.objects other object unitId found label

/-- A key that is no covered input takes a value or loses it. -/
theorem stored (underway : Underway envId before ledger world) {rel : String}
    {value : Option String}
    (recorded : ∀ sor, rel = routeRelPath sor → value ≠ none → ∃ entry ∈ ledger, entry.sor = sor)
    (free : NotRoute rel → Deletable before.units before.ledger rel) :
    Underway envId before ledger (world.stored (devStoreKey envId rel) value) := by
  refine ⟨underway.units, underway.ledger, ⟨underway.covered.objects, ?_⟩, ?_⟩
  · intro sor found
    by_cases same : routeRelPath sor = rel
    · rw [same, World.stored_self] at found
      have entries := recorded sor same.symm found
      rwa [← underway.ledger] at entries
    · have apart : devStoreKey envId (routeRelPath sor) ≠ devStoreKey envId rel :=
        fun keys => same (devStoreKey_injective keys)
      rw [World.stored_of_ne world apart] at found
      exact underway.covered.routes sor found
  · intro other plain staying
    have apart : devStoreKey envId other ≠ devStoreKey envId rel := by
      intro keys
      have same := devStoreKey_injective keys
      rw [same] at plain staying
      exact staying (free plain)
    rw [World.stored_of_ne world apart]
    exact underway.kept other plain staying

end Underway

/-- From a state with the invariant: the invariant wherever the program stops,
the postcondition where it succeeds. -/
abbrev Carefully {α : Type} (inv : World → Prop) (post : α → World → Prop)
    (program : Deploying α) (world : World) : Prop :=
  Program.Careful access (fun _ _ => True) inv post program world

section Calls

variable {inv : World → Prop} {world : World}

theorem reply_effective {turn : Turn} (replied : turn.reply = some ()) : turn.effective = true := by
  cases turn with
  | done => rfl
  | failed effective => cases replied

theorem carefully_reads {α : Type} {call : SorCall} {outcome : call.Reply → Option α}
    (answer : α → Prop) (quiet : ∀ turn, (access turn world call).2 = world)
    (answers : ∀ turn value, outcome (access turn world call).1 = some value → answer value) :
    Carefully inv (fun value next => next = world ∧ answer value) (attempt call outcome) world := by
  refine Program.Careful.ask (fun _ => trivial) (fun turn held => by rwa [quiet turn]) ?_
  intro turn value _ returned
  split at returned
  · next answered =>
      cases returned
      exact ⟨quiet turn, answers turn value answered⟩
  · cases returned

theorem carefully_loads {α : Type} {call : SorCall} {outcome : call.Reply → Option α} (content : α)
    (quiet : ∀ turn, (access turn world call).2 = world)
    (answers : ∀ turn, outcome (access turn world call).1 = turn.reply.map fun _ => content) :
    Carefully inv (fun value next => next = world ∧ value = content) (attempt call outcome) world := by
  refine carefully_reads _ quiet fun turn value answered => ?_
  rw [answers turn] at answered
  cases turn with
  | done => exact (Option.some.inj answered).symm
  | failed effective => cases answered

/-- A call that replaces the state, or fails with the state replaced or not. -/
theorem carefully_changes {call : SorCall} {outcome : call.Reply → Option Unit} (changed : World)
    {post : Unit → World → Prop}
    (moves : ∀ turn, (access turn world call).2 = world ∨ (access turn world call).2 = changed)
    (replied : ∀ turn, outcome (access turn world call).1 = some () →
      (access turn world call).2 = changed)
    (kept : inv world → inv changed) (holds : inv world → post () changed) :
    Carefully inv post (attempt call outcome) world := by
  refine Program.Careful.ask (fun _ => trivial) ?_ ?_
  · intro turn held
    rcases moves turn with same | new
    · rwa [same]
    · rw [new]
      exact kept held
  · intro turn value held returned
    split at returned
    · next answered =>
        cases returned
        rw [replied turn answered]
        exact holds held
    · cases returned

theorem change_moves (turn : Turn) (changed : World) :
    (change turn world changed).2 = world ∨ (change turn world changed).2 = changed := by
  unfold change
  split
  · exact .inr rfl
  · exact .inl rfl

theorem change_replied {turn : Turn} {changed : World}
    (replied : (change turn world changed).1 = some ()) :
    (change turn world changed).2 = changed := by
  have effective : turn.effective = true := reply_effective replied
  simp [change, effective]

theorem delete_carefully {ref : ObjectRef} {post : Unit → World → Prop}
    (kept : inv world → inv (world.deleted ref))
    (holds : inv world → post () (world.deleted ref)) :
    Carefully inv post (delete ref) world :=
  carefully_changes _ (fun turn => change_moves turn _) (fun _ replied => change_replied replied)
    kept holds

theorem saveLedger_carefully {ledger : List AppliedSorUnit} {post : Unit → World → Prop}
    (kept : inv world → inv { world with ledger := ledger })
    (holds : inv world → post () { world with ledger := ledger }) :
    Carefully inv post (attempt (.saveLedger ledger) id) world :=
  carefully_changes _ (fun turn => change_moves turn _) (fun _ replied => change_replied replied)
    kept holds

/-- A refused manifest fails the call and changes nothing. -/
theorem apply_carefully {manifest : Manifest} {post : Unit → World → Prop}
    (kept : world.takes manifest = true → inv world → inv (world.applied manifest))
    (holds : world.takes manifest = true → inv world → post () (world.applied manifest)) :
    Carefully inv post (apply manifest) world := by
  cases takes : world.takes manifest with
  | true =>
      have accepted : ∀ turn, access turn world (.apply manifest) =
          change turn world (world.applied manifest) := fun turn => by simp [access, takes]
      refine carefully_changes (world.applied manifest) ?_ ?_ (kept takes) (holds takes)
      · intro turn
        rw [accepted turn]
        exact change_moves turn _
      · intro turn replied
        rw [accepted turn] at replied ⊢
        exact change_replied replied
  | false =>
      have refused : ∀ turn, access turn world (.apply manifest) = (none, world) :=
        fun turn => by simp [access, takes]
      refine Program.Careful.ask (fun _ => trivial) ?_ ?_
      · intro turn held
        rwa [refused turn]
      · intro turn value _ returned
        rw [refused turn] at returned
        cases returned

end Calls

end GreenticDeployer.Sor
