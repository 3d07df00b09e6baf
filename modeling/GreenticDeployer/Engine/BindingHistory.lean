import GreenticDeployer.Engine.BindingRuns
import GreenticDeployer.Engine.PersistRule
import GreenticDeployer.Lib.Results

/-!
# Updating and rolling back a binding

Packs and extensions keep the same history: an update stashes the prior binding
without its own stash, a rollback takes it out and leaves no stash behind. What
the two families share is stated once, of a family of verbs on one binding.
-/

set_option maxHeartbeats 200000

namespace GreenticDeployer.Engine

open Spec Lib

theorem checkedSucc_some {generation next : UInt64} (room : checkedSucc generation = some next) :
    next.toNat = generation.toNat + 1 := by
  unfold checkedSucc at room
  split at room
  · cases room
  rename_i below
  cases room
  have bound := generation.toNat_lt
  have apart : generation.toNat ≠ 2 ^ 64 - 1 := fun full => below (UInt64.toNat_inj.mp full)
  rw [UInt64.toNat_add, UInt64.toNat_one]
  omega

theorem checkedSucc_none {generation : UInt64} (full : checkedSucc generation = none) :
    generation.toNat + 1 = 2 ^ 64 := by
  unfold checkedSucc at full
  split at full
  · rename_i top
    rw [top]
    rfl
  · cases full

structure BindingFamily (α : Type) where
  live : Environment → Option α
  /-- The binding answers to the slot or the key of the family. -/
  own : α → Prop
  generation : α → UInt64
  /-- The binding at another generation and without a stash. -/
  stamped : UInt64 → α → α
  /-- What the stash of a binding decodes to. -/
  stash : α → Option α
  update : Environment → α → Outcome BindingError (α × UInt64)
  rollback : Environment → Outcome BindingError (α × UInt64)

inductive BindingCall (α : Type) where
  | update (binding : α)
  | rollback

namespace BindingFamily

variable {α : Type} (family : BindingFamily α)

def outcome (env : Environment) : BindingCall α → Outcome BindingError (α × UInt64)
  | .update binding => family.update env binding
  | .rollback => family.rollback env

/-- Runs of updates and rollbacks of the binding. -/
def calls : System Environment (BindingCall α) where
  step := fun env call => persistOk env (family.outcome env call)
  allowed := fun _ _ => True

def mutations : Environment → List (BindingCall α) → Nat
  | _, [] => 0
  | env, call :: rest =>
    (if (family.outcome env call).1.isOk then 1 else 0) +
      mutations (persistOk env (family.outcome env call)) rest

def level (env : Environment) : Option Nat :=
  (family.live env).map fun binding => (family.generation binding).toNat

/-- The stash of the live binding is one step deep. -/
def OneLevel (env : Environment) : Prop :=
  ∃ binding prior, family.live env = some binding ∧ family.stash binding = some prior ∧
    family.stash prior = none

/-- The stash of the live binding, if it has one, is a binding of the family. -/
def StashOwn (env : Environment) : Prop :=
  ∀ binding prior, family.live env = some binding → family.stash binding = some prior →
    family.own prior

/-- What the verbs of a family do, call by call. -/
structure Lawful : Prop where
  owned : ∀ env binding, family.live env = some binding → family.own binding
  own_stamped : ∀ generation binding, family.own binding → family.own (family.stamped generation binding)
  generation_stamped : ∀ generation binding,
    family.generation (family.stamped generation binding) = generation
  stamped_stamped : ∀ generation before binding,
    family.stamped generation (family.stamped before binding) = family.stamped generation binding
  stash_stamped : ∀ generation binding, family.stash (family.stamped generation binding) = none
  updates : ∀ env binding updated next after,
    family.update env binding = (.ok (updated, next), after) →
    ∃ prior, family.live env = some prior ∧
      checkedSucc (family.generation prior) = some next ∧ family.generation updated = next ∧
      family.stash updated = some (family.stamped (family.generation prior) prior) ∧
      family.live after = some updated ∧
      ∀ generation, family.stamped generation updated = family.stamped generation binding
  rollsBack : ∀ env restored next after,
    family.rollback env = (.ok (restored, next), after) →
    ∃ binding prior, family.live env = some binding ∧ family.stash binding = some prior ∧
      checkedSucc (family.generation binding) = some next ∧
      restored = family.stamped next prior ∧
      (family.own prior → family.live after = some restored)
  rollback_ready : ∀ env binding prior next, family.live env = some binding →
    family.stash binding = some prior → checkedSucc (family.generation binding) = some next →
    (family.rollback env).1.isOk = true
  update_refused : ∀ env binding e after, family.update env binding = (.error e, after) → after = env
  rollback_refused : ∀ env e after, family.rollback env = (.error e, after) → after = env

structure History (env : Environment) : Prop where
  undone : ∀ binding updated next after,
    family.update env binding = (.ok (updated, next), after) →
    ∃ prior, family.live env = some prior ∧
      next.toNat = (family.generation prior).toNat + 1 ∧ family.live after = some updated ∧
      (∀ generation, family.stamped generation updated = family.stamped generation binding) ∧
      (next.toNat + 1 < 2 ^ 64 → ∃ later final,
        family.rollback after = (.ok (family.stamped later prior, later), final) ∧
        later.toNat = next.toNat + 1 ∧ family.live final = some (family.stamped later prior) ∧
        ∃ e, family.rollback final = (.error e, final)) ∧
      (next.toNat + 1 = 2 ^ 64 → ∃ e, family.rollback after = (.error e, after))
  full : ∀ binding, family.live env = some binding →
    (family.generation binding).toNat + 1 = 2 ^ 64 →
    (∀ payload, ∃ e, family.update env payload = (.error e, env)) ∧
      ∃ e, family.rollback env = (.error e, env)
  advanced : ∀ restored next after, family.rollback env = (.ok (restored, next), after) →
    ∃ binding, family.live env = some binding ∧ family.generation restored = next ∧
      next.toNat = (family.generation binding).toNat + 1
  updates : ∀ payloads : List α,
    family.level (family.calls.run env (payloads.map .update)) =
        (family.level env).map (· + family.mutations env (payloads.map .update)) ∧
      (0 < family.mutations env (payloads.map .update) →
        family.OneLevel (family.calls.run env (payloads.map .update)))
  runs : family.StashOwn env → ∀ calls,
    family.StashOwn (family.calls.run env calls) ∧
      family.level (family.calls.run env calls) =
        (family.level env).map (· + family.mutations env calls)

variable {family}

theorem error_of_not_ok {ε τ : Type} {outcome : Outcome ε τ} {env : Environment}
    (refused : ∀ e after, outcome = (.error e, after) → after = env)
    (never : ∀ result after, outcome ≠ (.ok result, after)) :
    ∃ e, outcome = (.error e, env) := by
  obtain ⟨result, after⟩ := outcome
  cases result with
  | ok value => exact absurd rfl (never value after)
  | error e => exact ⟨e, by rw [refused e after rfl]⟩

theorem rollback_unstashed (lawful : family.Lawful) {env : Environment} {binding : α}
    (live : family.live env = some binding) (unstashed : family.stash binding = none) :
    ∃ e, family.rollback env = (.error e, env) := by
  apply error_of_not_ok (lawful.rollback_refused env)
  rintro ⟨restored, next⟩ after ran
  obtain ⟨other, prior, there, stashed, -⟩ := lawful.rollsBack env restored next after ran
  cases live.symm.trans there
  cases unstashed.symm.trans stashed

theorem rollback_full (lawful : family.Lawful) {env : Environment} {binding : α}
    (live : family.live env = some binding)
    (full : (family.generation binding).toNat + 1 = 2 ^ 64) :
    ∃ e, family.rollback env = (.error e, env) := by
  apply error_of_not_ok (lawful.rollback_refused env)
  rintro ⟨restored, next⟩ after ran
  obtain ⟨other, prior, there, -, room, -⟩ := lawful.rollsBack env restored next after ran
  cases live.symm.trans there
  have counted := checkedSucc_some room
  have bound := next.toNat_lt
  omega

theorem update_full (lawful : family.Lawful) {env : Environment} {binding : α}
    (live : family.live env = some binding)
    (full : (family.generation binding).toNat + 1 = 2 ^ 64) (payload : α) :
    ∃ e, family.update env payload = (.error e, env) := by
  apply error_of_not_ok (lawful.update_refused env payload)
  rintro ⟨updated, next⟩ after ran
  obtain ⟨prior, there, room, -⟩ := lawful.updates env payload updated next after ran
  cases live.symm.trans there
  have counted := checkedSucc_some room
  have bound := next.toNat_lt
  omega

/-- An update that left room for one more generation is undone. -/
theorem undo (lawful : family.Lawful) {env after : Environment} {binding updated prior : α}
    {next : UInt64} (ran : family.update env binding = (.ok (updated, next), after))
    (before : family.live env = some prior) (room : next.toNat + 1 < 2 ^ 64) :
    ∃ later final, family.rollback after = (.ok (family.stamped later prior, later), final) ∧
      later.toNat = next.toNat + 1 ∧ family.live final = some (family.stamped later prior) ∧
      ∃ e, family.rollback final = (.error e, final) := by
  obtain ⟨other, there, -, generation, stashed, live, -⟩ :=
    lawful.updates env binding updated next after ran
  cases before.symm.trans there
  obtain ⟨later, succ⟩ : ∃ later, checkedSucc next = some later := by
    cases succ : checkedSucc next with
    | some later => exact ⟨later, rfl⟩
    | none =>
        have top := checkedSucc_none succ
        omega
  have ready := lawful.rollback_ready after updated _ later live stashed (generation ▸ succ)
  obtain ⟨⟨restored, reached⟩, final, rolled⟩ : ∃ result final,
      family.rollback after = (.ok result, final) := by
    rcases called : family.rollback after with ⟨result, final⟩
    cases result with
    | ok value => exact ⟨value, final, rfl⟩
    | error e =>
        rw [called] at ready
        cases ready
  obtain ⟨again, snapshot, live', stashed', succ', rfl, placed⟩ :=
    lawful.rollsBack after restored reached final rolled
  cases live.symm.trans live'
  cases stashed.symm.trans stashed'
  rw [generation, succ] at succ'
  cases succ'
  rw [lawful.stamped_stamped] at rolled placed
  have final_live := placed (lawful.own_stamped _ _ (lawful.owned env prior before))
  exact ⟨later, final, rolled, checkedSucc_some succ, final_live,
    rollback_unstashed lawful final_live (lawful.stash_stamped _ _)⟩

theorem update_level (lawful : family.Lawful) {env after : Environment} {binding updated : α}
    {next : UInt64} (ran : family.update env binding = (.ok (updated, next), after)) :
    family.level after = (family.level env).map (· + 1) ∧ family.OneLevel after ∧
      family.StashOwn after := by
  obtain ⟨prior, before, room, generation, stashed, live, -⟩ :=
    lawful.updates env binding updated next after ran
  refine ⟨?_, ⟨updated, _, live, stashed, lawful.stash_stamped _ _⟩, ?_⟩
  · simp only [level, live, before, Option.map_some, generation, checkedSucc_some room]
  · intro other snapshot there stash
    cases live.symm.trans there
    cases stashed.symm.trans stash
    exact lawful.own_stamped _ _ (lawful.owned env prior before)

theorem rollback_level (lawful : family.Lawful) {env after : Environment} {restored : α}
    {next : UInt64} (own : family.StashOwn env)
    (ran : family.rollback env = (.ok (restored, next), after)) :
    family.level after = (family.level env).map (· + 1) ∧ family.StashOwn after := by
  obtain ⟨binding, prior, before, stashed, room, rfl, placed⟩ :=
    lawful.rollsBack env restored next after ran
  have live := placed (own binding prior before stashed)
  constructor
  · simp only [level, live, before, Option.map_some, lawful.generation_stamped,
      checkedSucc_some room]
  · intro other snapshot there stash
    cases live.symm.trans there
    rw [lawful.stash_stamped] at stash
    cases stash

theorem level_cons {env : Environment} {call : BindingCall α} {rest : List (BindingCall α)}
    (stepped : family.level (persistOk env (family.outcome env call)) =
      (family.level env).map (· + if (family.outcome env call).1.isOk then 1 else 0))
    (rested : family.level (family.calls.run (persistOk env (family.outcome env call)) rest) =
      (family.level (persistOk env (family.outcome env call))).map
        (· + family.mutations (persistOk env (family.outcome env call)) rest)) :
    family.level (family.calls.run env (call :: rest)) =
      (family.level env).map (· + family.mutations env (call :: rest)) := by
  rw [stepped, Option.map_map] at rested
  refine Eq.trans rested ?_
  congr 1
  funext n
  simp only [Function.comp, mutations]
  omega

theorem updates_run (lawful : family.Lawful) (env : Environment) (payloads : List α) :
    family.level (family.calls.run env (payloads.map .update)) =
        (family.level env).map (· + family.mutations env (payloads.map .update)) ∧
      (0 < family.mutations env (payloads.map .update) ∨ family.OneLevel env →
        family.OneLevel (family.calls.run env (payloads.map .update))) := by
  induction payloads generalizing env with
  | nil => simp [mutations, System.run]
  | cons payload rest ih =>
      have stepped : family.level (persistOk env (family.outcome env (.update payload))) =
            (family.level env).map
              (· + if (family.outcome env (.update payload)).1.isOk then 1 else 0) ∧
          ((family.outcome env (.update payload)).1.isOk = true ∨ family.OneLevel env →
            family.OneLevel (persistOk env (family.outcome env (.update payload)))) := by
        rcases ran : family.outcome env (.update payload) with ⟨result, after⟩
        cases result with
        | error e => simp [persistOk, Except.isOk, Except.toBool]
        | ok value =>
            obtain ⟨advanced, one, -⟩ := update_level lawful ran
            exact ⟨advanced, fun _ => one⟩
      obtain ⟨levels, deep⟩ := ih (persistOk env (family.outcome env (.update payload)))
      constructor
      · exact level_cons stepped.1 levels
      · intro changed
        apply deep
        by_cases now : (family.outcome env (.update payload)).1.isOk = true
        · exact .inr (stepped.2 (.inl now))
        · rcases changed with later | one
          · left
            simpa only [List.map_cons, mutations, if_neg now, Nat.zero_add] using later
          · exact .inr (stepped.2 (.inr one))

theorem calls_run (lawful : family.Lawful) {env : Environment} (own : family.StashOwn env)
    (calls : List (BindingCall α)) :
    family.StashOwn (family.calls.run env calls) ∧
      family.level (family.calls.run env calls) =
        (family.level env).map (· + family.mutations env calls) := by
  induction calls generalizing env with
  | nil => simpa [mutations, System.run] using own
  | cons call rest ih =>
      have stepped : family.StashOwn (persistOk env (family.outcome env call)) ∧
          family.level (persistOk env (family.outcome env call)) = (family.level env).map
            (· + if (family.outcome env call).1.isOk then 1 else 0) := by
        rcases ran : family.outcome env call with ⟨result, after⟩
        cases result with
        | error e => simpa [persistOk, Except.isOk, Except.toBool] using own
        | ok value =>
            cases call with
            | update payload =>
                obtain ⟨advanced, -, kept⟩ := update_level lawful ran
                exact ⟨kept, advanced⟩
            | rollback =>
                obtain ⟨advanced, kept⟩ := rollback_level lawful own ran
                exact ⟨kept, advanced⟩
      obtain ⟨kept, levels⟩ := ih stepped.1
      exact ⟨kept, level_cons stepped.2 levels⟩

theorem history (lawful : family.Lawful) (env : Environment) : family.History env where
  undone := by
    intro binding updated next after ran
    obtain ⟨prior, before, room, generation, -, live, payload⟩ :=
      lawful.updates env binding updated next after ran
    refine ⟨prior, before, checkedSucc_some room, live, payload, undo lawful ran before, ?_⟩
    intro top
    exact rollback_full lawful live (by rw [generation]; exact top)
  full := by
    intro binding live top
    exact ⟨update_full lawful live top, rollback_full lawful live top⟩
  advanced := by
    intro restored next after ran
    obtain ⟨binding, prior, live, -, room, rfl, -⟩ := lawful.rollsBack env restored next after ran
    exact ⟨binding, live, lawful.generation_stamped _ _, checkedSucc_some room⟩
  updates := by
    intro payloads
    obtain ⟨levels, deep⟩ := updates_run lawful env payloads
    exact ⟨levels, fun some_ => deep (.inl some_)⟩
  runs := fun own calls => calls_run lawful own calls

end BindingFamily

section

variable (serde : SerdeJson)

def decodePack (token : PathBuf) : Option EnvPackBinding :=
  (loadInline serde token).bind fun value => (serde.pack.fromValue value).toOption

def decodeExtension (token : PathBuf) : Option ExtensionBinding :=
  (loadInline serde token).bind fun value => (serde.extension.fromValue value).toOption

def packFamily (slot : CapabilitySlot) : BindingFamily EnvPackBinding where
  live := fun env => env.packs.find? fun b => b.slot = slot
  own := fun b => b.slot = slot
  generation := (·.generation)
  stamped := fun generation b => { b with generation := generation, previousBindingRef := none }
  stash := fun b => b.previousBindingRef.bind (decodePack serde)
  update := fun env binding => updatePackBinding serde env slot binding
  rollback := fun env => rollbackPackBinding serde env slot

def extensionFamily (key : ExtensionKey) : BindingFamily ExtensionBinding where
  live := fun env => env.extensions.find? fun b => key.isKeyOf b
  own := fun b => ExtensionKey.fromBinding b = key
  generation := (·.generation)
  stamped := fun generation b => { b with generation := generation, previousBindingRef := none }
  stash := fun b => b.previousBindingRef.bind (decodeExtension serde)
  update := fun env binding => updateExtensionBinding serde env key binding
  rollback := fun env => rollbackExtensionBinding serde env key

end

/-- The verbs of a family are those of a kind, which may refuse an update besides. -/
structure BindingFamily.Of {serde : SerdeJson} {α : Type} (family : BindingFamily α)
    (kind : BindingKind serde α) : Prop where
  found : ∀ env found, kind.find env = .ok found → family.live env = some found.hit
  finds : ∀ env binding, family.live env = some binding →
    ∃ found, kind.find env = .ok found ∧ found.hit = binding
  owned : ∀ env binding, family.live env = some binding → family.own binding
  addressed : ∀ binding, kind.checkAddressed binding = .ok () → family.own binding
  own_stamped : ∀ generation token binding, family.own binding →
    family.own (kind.stamped generation token binding)
  written : ∀ env found binding, kind.find env = .ok found → family.own binding →
    family.live (kind.write env (found.replace binding)) = some binding
  generation : ∀ binding, family.generation binding = kind.generation binding
  generation_stamped : ∀ generation token binding,
    kind.generation (kind.stamped generation token binding) = generation
  stamped : ∀ generation binding, family.stamped generation binding =
    kind.stamped generation none binding
  stamped_stamped : ∀ generation token generation' token' binding,
    kind.stamped generation token (kind.stamped generation' token' binding) =
      kind.stamped generation token binding
  token_stamped : ∀ generation token binding,
    kind.previousBindingRef (kind.stamped generation token binding) = token
  stash : ∀ binding, family.stash binding = (kind.previousBindingRef binding).bind fun token =>
    (loadInline serde token).bind fun value => (kind.codec.fromValue value).toOption
  update : ∀ env binding, (∃ e, family.update env binding = (.error e, env)) ∨
    family.update env binding = kind.update env binding
  rollback : ∀ env, family.rollback env = kind.rollback env

section Lawful

variable {serde : SerdeJson} {α : Type} {family : BindingFamily α} {kind : BindingKind serde α}

theorem BindingFamily.Of.updates (of : family.Of kind) (env : Environment)
    (binding updated : α) (next : UInt64) (after : Environment)
    (ran : family.update env binding = (.ok (updated, next), after)) :
    ∃ prior, family.live env = some prior ∧
      checkedSucc (family.generation prior) = some next ∧ family.generation updated = next ∧
      family.stash updated = some (family.stamped (family.generation prior) prior) ∧
      family.live after = some updated ∧
      ∀ generation, family.stamped generation updated = family.stamped generation binding := by
  rcases of.update env binding with ⟨e, refused⟩ | same
  · rw [refused] at ran
    cases ran
  rw [same] at ran
  rcases kind.update_cases env binding with
    ⟨e, refused⟩ | ⟨found, _, snapshot, located, addressed, room, encoded, done⟩
  · rw [refused] at ran
    cases ran
  rw [done] at ran
  cases ran
  refine ⟨found.hit, of.found _ _ located, ?_, ?_, ?_, ?_, fun generation => ?_⟩
  · rw [of.generation]
    exact room
  · rw [of.generation, of.generation_stamped]
  · rw [of.stash, of.token_stamped, of.stamped, of.generation, Option.bind_some,
      loadInline_stashInline, Option.bind_some, kind.codec.fromValue_toValue _ _ encoded]
    rfl
  · exact of.written _ _ _ located (of.own_stamped _ _ _ (of.addressed _ addressed))
  · rw [of.stamped, of.stamped, of.stamped_stamped]

theorem BindingFamily.Of.rollsBack (of : family.Of kind) (env : Environment) (restored : α)
    (next : UInt64) (after : Environment)
    (ran : family.rollback env = (.ok (restored, next), after)) :
    ∃ binding prior, family.live env = some binding ∧ family.stash binding = some prior ∧
      checkedSucc (family.generation binding) = some next ∧
      restored = family.stamped next prior ∧
      (family.own prior → family.live after = some restored) := by
  rw [of.rollback] at ran
  rcases kind.rollback_cases env with
    ⟨e, refused⟩ | ⟨found, _, token, value, snapshot, located, room, stashed, loaded, decoded, done⟩
  · rw [refused] at ran
    cases ran
  rw [done] at ran
  cases ran
  refine ⟨found.hit, snapshot, of.found _ _ located, ?_, ?_, ?_, fun own => ?_⟩
  · rw [of.stash, stashed, Option.bind_some, loaded, Option.bind_some, decoded]
    rfl
  · rw [of.generation]
    exact room
  · rw [of.stamped]
  · exact of.written _ _ _ located (of.own_stamped _ _ _ own)

theorem BindingFamily.Of.lawful (of : family.Of kind) : family.Lawful where
  owned := of.owned
  own_stamped := by
    intro generation binding own
    rw [of.stamped]
    exact of.own_stamped _ _ _ own
  generation_stamped := by
    intro generation binding
    rw [of.stamped, of.generation, of.generation_stamped]
  stamped_stamped := by
    intro generation before binding
    rw [of.stamped, of.stamped, of.stamped, of.stamped_stamped]
  stash_stamped := by
    intro generation binding
    rw [of.stash, of.stamped, of.token_stamped]
    rfl
  updates := of.updates
  rollsBack := of.rollsBack
  rollback_ready := by
    intro env binding prior next live stashed room
    obtain ⟨found, located, rfl⟩ := of.finds env binding live
    rw [of.stash] at stashed
    rw [of.generation] at room
    obtain ⟨token, there, decodes⟩ := Option.bind_eq_some_iff.mp stashed
    obtain ⟨value, loaded, decoded⟩ := Option.bind_eq_some_iff.mp decodes
    simp only [of.rollback, BindingKind.rollback, located, room, there, loaded,
      toOption_some decoded]
    rfl
  update_refused := by
    intro env binding e after ran
    rcases of.update env binding with ⟨_, refused⟩ | same
    · rw [refused] at ran
      cases ran
      rfl
    · exact (kind.update_atomic env binding).refused (same.symm.trans ran)
  rollback_refused := fun env e after ran =>
    (kind.rollback_atomic env).refused ((of.rollback env).symm.trans ran)

end Lawful

theorem packFamily_of (serde : SerdeJson) (slot : CapabilitySlot) :
    (packFamily serde slot).Of (packKind serde slot) where
  found := by
    intro env found located
    simp only [packFamily, find?_eq_locate, (findPackSlot_ok located).1, Option.map_some]
  finds := by
    intro env binding live
    obtain ⟨found, searched, hit⟩ := locate_of_find? live
    exact ⟨found, by simp only [packKind, findPackSlot, searched], hit⟩
  owned := fun env binding live => by simpa [packFamily] using List.find?_some live
  addressed := fun _ addressed => slot_of_addressed addressed
  own_stamped := fun _ _ _ own => own
  written := fun env found binding located own =>
    Located.find?_replace (findPackSlot_ok located).1 (decide_eq_true own)
  generation := fun _ => rfl
  generation_stamped := fun _ _ _ => rfl
  stamped := fun _ _ => rfl
  stamped_stamped := fun _ _ _ _ _ => rfl
  token_stamped := fun _ _ _ => rfl
  stash := fun _ => rfl
  update := by
    intro env binding
    simp only [packFamily, updatePackBinding]
    split
    · exact .inl ⟨_, rfl⟩
    · exact .inr rfl
  rollback := fun _ => rfl

theorem extensionFamily_of (serde : SerdeJson) (key : ExtensionKey) :
    (extensionFamily serde key).Of (extensionKind serde key) where
  found := by
    intro env found located
    simp only [extensionFamily, find?_eq_locate, (findExtension_ok located).1, Option.map_some]
  finds := by
    intro env binding live
    obtain ⟨found, searched, hit⟩ := locate_of_find? live
    exact ⟨found, by simp only [extensionKind, findExtension, searched], hit⟩
  owned := fun env binding live => (ExtensionKey.isKeyOf_iff key binding).mp (List.find?_some live)
  addressed := fun _ addressed => key_of_addressed addressed
  own_stamped := fun _ _ _ own => own
  written := fun env found binding located own =>
    Located.find?_replace (findExtension_ok located).1 ((ExtensionKey.isKeyOf_iff key binding).mpr own)
  generation := fun _ => rfl
  generation_stamped := fun _ _ _ => rfl
  stamped := fun _ _ => rfl
  stamped_stamped := fun _ _ _ _ _ => rfl
  token_stamped := fun _ _ _ => rfl
  stash := fun _ => rfl
  update := fun _ _ => .inr rfl
  rollback := fun _ => rfl

/-- Every slot and every extension key keeps the same history: an update binds its payload and
is undone once, both up to generation and stash; the stash stays one level deep however
many updates follow; and the generation counts the calls that mutated, none of
which passes the maximum. -/
theorem update_then_rollback (serde : SerdeJson) (env : Environment) :
    (∀ slot, (packFamily serde slot).History env) ∧
      ∀ key, (extensionFamily serde key).History env := by
  constructor
  · intro slot
    exact BindingFamily.history (packFamily_of serde slot).lawful env
  · intro key
    exact BindingFamily.history (extensionFamily_of serde key).lawful env

def secretsBound : Environment := (bindings secretsJson).run localFresh [.addPack secretsBinding]

def vaultBinding : EnvPackBinding := { secretsBinding with packRef := ⟨"vault"⟩ }

theorem update_then_rollback_of_secrets :
    ∃ updated next after, updatePackBinding secretsJson secretsBound .secrets vaultBinding =
        (.ok (updated, next), after) ∧
      updated.packRef = ⟨"vault"⟩ ∧ ∃ later final,
        rollbackPackBinding secretsJson after .secrets =
          (.ok ((packFamily secretsJson .secrets).stamped later secretsBinding, later), final) := by
  have updates : (updatePackBinding secretsJson secretsBound .secrets vaultBinding).1.isOk = true :=
    by decide
  have bound : (packFamily secretsJson .secrets).live secretsBound = some secretsBinding := by
    decide
  rcases ran : updatePackBinding secretsJson secretsBound .secrets vaultBinding with ⟨result, after⟩
  rw [ran] at updates
  cases result with
  | error e => cases updates
  | ok reached =>
      obtain ⟨prior, live, count, _, payload, undone, _⟩ :=
        ((update_then_rollback secretsJson secretsBound).1 .secrets).undone vaultBinding _ _ _ ran
      cases bound.symm.trans live
      obtain ⟨later, final, restored, _⟩ := undone (by rw [count]; decide)
      have named := congrArg EnvPackBinding.packRef (payload 0)
      exact ⟨reached.1, reached.2, after, rfl, named, later, final, restored⟩

end GreenticDeployer.Engine
