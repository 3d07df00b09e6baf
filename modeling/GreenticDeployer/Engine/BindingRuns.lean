import GreenticDeployer.Engine.Bindings
import GreenticDeployer.Engine.Lifecycle

/-!
# Runs of the binding verbs

One binding per slot, one per extension key, and no slot of the open families
in `packs`. A rollback installs whatever its token decodes to, so the invariant
constrains the tokens as well as the bindings.
-/

set_option maxHeartbeats 200000

namespace GreenticDeployer.Engine

open Spec Lib

inductive BindingVerb where
  | addPack (binding : EnvPackBinding)
  | updatePack (slot : CapabilitySlot) (binding : EnvPackBinding)
  | removePack (slot : CapabilitySlot)
  | rollbackPack (slot : CapabilitySlot)
  | addExtension (binding : ExtensionBinding)
  | updateExtension (key : ExtensionKey) (binding : ExtensionBinding)
  | removeExtension (key : ExtensionKey)
  | rollbackExtension (key : ExtensionKey)
  | merge (packs : List EnvPackBinding) (extensions : List ExtensionBinding)

section

variable (serde : SerdeJson)

def persistBinding (env : Environment) : BindingVerb → Environment
  | .addPack binding => persistOk env (addPackBinding env binding)
  | .updatePack slot binding => persistOk env (updatePackBinding serde env slot binding)
  | .removePack slot => persistOk env (removePackBinding env slot)
  | .rollbackPack slot => persistOk env (rollbackPackBinding serde env slot)
  | .addExtension binding => persistOk env (addExtensionBinding env binding)
  | .updateExtension key binding => persistOk env (updateExtensionBinding serde env key binding)
  | .removeExtension key => persistOk env (removeExtensionBinding env key)
  | .rollbackExtension key => persistOk env (rollbackExtensionBinding serde env key)
  | .merge packs extensions => (mergeBindings env packs extensions).2

def PackTokenKeeps (binding : EnvPackBinding) : Prop :=
  ∀ token value snapshot, binding.previousBindingRef = some token →
    loadInline serde token = some value → serde.pack.fromValue value = .ok snapshot →
    snapshot.slot = binding.slot

def ExtensionTokenKeeps (binding : ExtensionBinding) : Prop :=
  ∀ token value snapshot, binding.previousBindingRef = some token →
    loadInline serde token = some value → serde.extension.fromValue value = .ok snapshot →
    ExtensionKey.fromBinding snapshot = ExtensionKey.fromBinding binding

/-- The bindings a merge takes in: the first of each slot not yet bound. -/
def mergedPacks : List CapabilitySlot → List EnvPackBinding → List EnvPackBinding
  | _, [] => []
  | bound, binding :: rest =>
    if binding.slot ∈ bound then mergedPacks bound rest
    else binding :: mergedPacks (bound ++ [binding.slot]) rest

def mergedExtensions : List ExtensionKey → List ExtensionBinding → List ExtensionBinding
  | _, [] => []
  | bound, binding :: rest =>
    if ExtensionKey.fromBinding binding ∈ bound then mergedExtensions bound rest
    else binding :: mergedExtensions (bound ++ [ExtensionKey.fromBinding binding]) rest

/-- What the verbs leave to their callers: a binding taken in from outside has a
token that comes back under its own slot or key, and a merged pack binding has
a slot that binds in `packs`. -/
def BindingVerb.wellFormed (env : Environment) : BindingVerb → Prop
  | .addPack binding => PackTokenKeeps serde binding
  | .addExtension binding => ExtensionTokenKeeps serde binding
  | .merge packs extensions =>
    (∀ binding ∈ mergedPacks (env.packs.map (·.slot)) packs,
      binding.slot.bindsInPacks = true ∧ PackTokenKeeps serde binding) ∧
    ∀ binding ∈ mergedExtensions (env.extensions.map ExtensionKey.fromBinding) extensions,
      ExtensionTokenKeeps serde binding
  | _ => True

/-- Runs of binding verbs whose inputs are well formed. -/
def bindings : System Environment BindingVerb where
  step := persistBinding serde
  allowed := fun env verb => verb.wellFormed serde env

structure Bound (env : Environment) : Prop where
  packs : Keyed (·.slot)
    (fun b => b.slot.bindsInPacks = true ∧ PackTokenKeeps serde b) env.packs
  extensions : Keyed ExtensionKey.fromBinding (ExtensionTokenKeeps serde) env.extensions

end

variable {serde : SerdeJson}

theorem packTokenKeeps_stash {binding : EnvPackBinding} {value : serde.Value}
    {previous : EnvPackBinding} (encoded : serde.pack.toValue previous = .ok value)
    (stashed : binding.previousBindingRef = some (stashInline serde value))
    (same : previous.slot = binding.slot) : PackTokenKeeps serde binding := by
  intro token value' snapshot stored loaded decoded
  cases stashed.symm.trans stored
  rw [loadInline_stashInline] at loaded
  cases loaded
  rw [serde.pack.fromValue_toValue _ _ encoded] at decoded
  cases decoded
  exact same

theorem extensionTokenKeeps_stash {binding : ExtensionBinding} {value : serde.Value}
    {previous : ExtensionBinding} (encoded : serde.extension.toValue previous = .ok value)
    (stashed : binding.previousBindingRef = some (stashInline serde value))
    (same : ExtensionKey.fromBinding previous = ExtensionKey.fromBinding binding) :
    ExtensionTokenKeeps serde binding := by
  intro token value' snapshot stored loaded decoded
  cases stashed.symm.trans stored
  rw [loadInline_stashInline] at loaded
  cases loaded
  rw [serde.extension.fromValue_toValue _ _ encoded] at decoded
  cases decoded
  exact same

theorem findPackSlot_ok {env : Environment} {slot : CapabilitySlot}
    {found : Located EnvPackBinding} (located : findPackSlot env slot = .ok found) :
    locate (fun b => b.slot = slot) env.packs = some found ∧ found.hit.slot = slot := by
  unfold findPackSlot at located
  split at located
  · cases located
  · rename_i searched
    cases located
    exact ⟨searched, by simpa using (locate_eq_some searched).2.1⟩

theorem findExtension_ok {env : Environment} {key : ExtensionKey}
    {found : Located ExtensionBinding} (located : findExtension env key = .ok found) :
    locate (fun b => key.isKeyOf b) env.extensions = some found ∧
      ExtensionKey.fromBinding found.hit = key := by
  unfold findExtension at located
  split at located
  · cases located
  · rename_i searched
    cases located
    exact ⟨searched, (ExtensionKey.isKeyOf_iff key found.hit).mp (locate_eq_some searched).2.1⟩

theorem slot_of_addressed {slot : CapabilitySlot} {binding : EnvPackBinding}
    (addressed : (packKind serde slot).checkAddressed binding = .ok ()) : binding.slot = slot := by
  simp only [packKind] at addressed
  split at addressed
  · cases addressed
  · rename_i same
    exact not_not.mp same

theorem key_of_addressed {key : ExtensionKey} {binding : ExtensionBinding}
    (addressed : (extensionKind serde key).checkAddressed binding = .ok ()) :
    ExtensionKey.fromBinding binding = key := by
  simp only [extensionKind] at addressed
  split at addressed
  · cases addressed
  · rename_i same
    exact not_not.mp same

theorem addPackBinding_bound {env : Environment} {binding : EnvPackBinding}
    (bound : Bound serde env) (keeps : PackTokenKeeps serde binding) :
    Bound serde (persistOk env (addPackBinding env binding)) := by
  simp only [addPackBinding]
  split
  · exact bound
  rename_i inPacks
  split
  · exact bound
  rename_i vacant
  refine ⟨bound.packs.push ?_ ⟨not_not.mp inPacks, keeps⟩, bound.extensions⟩
  simpa [Environment.packForSlot] using vacant

theorem updatePackBinding_bound {env : Environment} (bound : Bound serde env)
    (slot : CapabilitySlot) (binding : EnvPackBinding) :
    Bound serde (persistOk env (updatePackBinding serde env slot binding)) := by
  unfold updatePackBinding
  split
  · exact bound
  rename_i inPacks
  rcases (packKind serde slot).update_cases env binding with
    ⟨e, refused⟩ | ⟨found, next, value, located, addressed, -, encoded, done⟩
  · rw [refused]
    exact bound
  rw [done]
  obtain ⟨searched, hitSlot⟩ := findPackSlot_ok located
  have target : binding.slot = slot := slot_of_addressed addressed
  refine ⟨bound.packs.replace searched (target.trans hitSlot.symm) ⟨?_, ?_⟩, bound.extensions⟩
  · rw [target.symm] at inPacks
    exact not_not.mp inPacks
  · exact packTokenKeeps_stash encoded rfl (hitSlot.trans target.symm)

theorem removePackBinding_bound {env : Environment} (bound : Bound serde env)
    (slot : CapabilitySlot) : Bound serde (persistOk env (removePackBinding env slot)) := by
  simp only [removePackBinding]
  split
  · exact bound
  · rename_i found located
    exact ⟨bound.packs.remove (findPackSlot_ok located).1, bound.extensions⟩

theorem rollbackPackBinding_bound {env : Environment} (bound : Bound serde env)
    (slot : CapabilitySlot) :
    Bound serde (persistOk env (rollbackPackBinding serde env slot)) := by
  unfold rollbackPackBinding
  rcases (packKind serde slot).rollback_cases env with
    ⟨e, refused⟩ | ⟨found, next, token, value, snapshot, located, -, stashed, loaded, decoded, done⟩
  · rw [refused]
    exact bound
  rw [done]
  obtain ⟨searched, -⟩ := findPackSlot_ok located
  obtain ⟨inPacks, keeps⟩ := bound.packs.each _ (Located.mem_hit searched)
  have same : snapshot.slot = found.hit.slot := keeps token value snapshot stashed loaded decoded
  refine ⟨bound.packs.replace searched same ⟨?_, nofun⟩, bound.extensions⟩
  exact same ▸ inPacks

theorem addExtensionBinding_bound {env : Environment} {binding : ExtensionBinding}
    (bound : Bound serde env) (keeps : ExtensionTokenKeeps serde binding) :
    Bound serde (persistOk env (addExtensionBinding env binding)) := by
  simp only [addExtensionBinding]
  split
  · exact bound
  rename_i vacant
  refine ⟨bound.packs, bound.extensions.push ?_ keeps⟩
  intro b member same
  apply vacant
  rw [List.any_eq_true]
  exact ⟨b, member, (ExtensionKey.isKeyOf_iff _ b).mpr same⟩

theorem updateExtensionBinding_bound {env : Environment} (bound : Bound serde env)
    (key : ExtensionKey) (binding : ExtensionBinding) :
    Bound serde (persistOk env (updateExtensionBinding serde env key binding)) := by
  unfold updateExtensionBinding
  rcases (extensionKind serde key).update_cases env binding with
    ⟨e, refused⟩ | ⟨found, next, value, located, addressed, -, encoded, done⟩
  · rw [refused]
    exact bound
  rw [done]
  obtain ⟨searched, hitKey⟩ := findExtension_ok located
  have target : ExtensionKey.fromBinding binding = key := key_of_addressed addressed
  refine ⟨bound.packs, bound.extensions.replace searched (target.trans hitKey.symm) ?_⟩
  exact extensionTokenKeeps_stash encoded rfl (hitKey.trans target.symm)

theorem removeExtensionBinding_bound {env : Environment} (bound : Bound serde env)
    (key : ExtensionKey) : Bound serde (persistOk env (removeExtensionBinding env key)) := by
  simp only [removeExtensionBinding]
  split
  · exact bound
  · rename_i found located
    exact ⟨bound.packs, bound.extensions.remove (findExtension_ok located).1⟩

theorem rollbackExtensionBinding_bound {env : Environment} (bound : Bound serde env)
    (key : ExtensionKey) :
    Bound serde (persistOk env (rollbackExtensionBinding serde env key)) := by
  unfold rollbackExtensionBinding
  rcases (extensionKind serde key).rollback_cases env with
    ⟨e, refused⟩ | ⟨found, next, token, value, snapshot, located, -, stashed, loaded, decoded, done⟩
  · rw [refused]
    exact bound
  rw [done]
  obtain ⟨searched, -⟩ := findExtension_ok located
  have keeps := bound.extensions.each _ (Located.mem_hit searched)
  have same := keeps token value snapshot stashed loaded decoded
  exact ⟨bound.packs, bound.extensions.replace searched same nofun⟩

theorem mergePacks_bound (packs : List EnvPackBinding) {env : Environment}
    (bound : Bound serde env)
    (sound : ∀ binding ∈ mergedPacks (env.packs.map (·.slot)) packs,
      binding.slot.bindsInPacks = true ∧ PackTokenKeeps serde binding) :
    Bound serde (mergePacks env packs).2 := by
  induction packs generalizing env with
  | nil => exact bound
  | cons binding rest ih =>
      simp only [mergePacks]
      by_cases taken : binding.slot ∈ env.packs.map (·.slot)
      · have present : (env.packs.any fun b => b.slot = binding.slot) = true := by
          simpa using taken
        rw [if_pos present]
        exact ih bound (by simpa [mergedPacks, taken] using sound)
      · have absent : ¬ (env.packs.any fun b => b.slot = binding.slot) = true := by
          simpa using taken
        rw [if_neg absent]
        rw [mergedPacks, if_neg taken] at sound
        have first := sound binding (List.mem_cons_self ..)
        refine ih ⟨bound.packs.push ?_ first, bound.extensions⟩ ?_
        · simpa using taken
        · intro b member
          exact sound b (List.mem_cons_of_mem _ (by simpa using member))

theorem mergeExtensions_bound (extensions : List ExtensionBinding) {env : Environment}
    (bound : Bound serde env)
    (sound : ∀ binding ∈ mergedExtensions
      (env.extensions.map ExtensionKey.fromBinding) extensions, ExtensionTokenKeeps serde binding) :
    Bound serde (mergeExtensions env extensions).2 := by
  induction extensions generalizing env with
  | nil => exact bound
  | cons binding rest ih =>
      have keyed : (env.extensions.any fun b => (ExtensionKey.fromBinding binding).isKeyOf b) =
          true ↔ ExtensionKey.fromBinding binding ∈
            env.extensions.map ExtensionKey.fromBinding := by
        simp only [List.any_eq_true, ExtensionKey.isKeyOf_iff, List.mem_map]
      simp only [mergeExtensions]
      by_cases taken : ExtensionKey.fromBinding binding ∈
          env.extensions.map ExtensionKey.fromBinding
      · rw [if_pos (keyed.mpr taken)]
        exact ih bound (by simpa only [mergedExtensions, if_pos taken] using sound)
      · rw [if_neg (mt keyed.mp taken)]
        rw [mergedExtensions, if_neg taken] at sound
        have first := sound binding (List.mem_cons_self ..)
        refine ih ⟨bound.packs, bound.extensions.push ?_ first⟩ ?_
        · intro b member same
          exact taken (List.mem_map.mpr ⟨b, member, same⟩)
        · intro b member
          exact sound b (List.mem_cons_of_mem _ (by simpa using member))

theorem persistBinding_bound (env : Environment) (verb : BindingVerb)
    (sound : verb.wellFormed serde env) (bound : Bound serde env) :
    Bound serde (persistBinding serde env verb) := by
  cases verb with
  | addPack binding => exact addPackBinding_bound bound sound
  | updatePack slot binding => exact updatePackBinding_bound bound slot binding
  | removePack slot => exact removePackBinding_bound bound slot
  | rollbackPack slot => exact rollbackPackBinding_bound bound slot
  | addExtension binding => exact addExtensionBinding_bound bound sound
  | updateExtension key binding => exact updateExtensionBinding_bound bound key binding
  | removeExtension key => exact removeExtensionBinding_bound bound key
  | rollbackExtension key => exact rollbackExtensionBinding_bound bound key
  | merge packs extensions =>
      simp only [persistBinding, mergeBindings]
      apply mergeExtensions_bound extensions (mergePacks_bound packs bound sound.1)
      rw [mergePacks_frame]
      exact sound.2

/-- In every run of binding verbs with well-formed inputs from a fresh
environment: one pack binding per slot, only slots that bind in `packs`, one
extension binding per path and instance. -/
theorem bindings_distinct (serde : SerdeJson) (envId : EnvId) (name : String)
    (hostConfig : EnvironmentHostConfig) (revocation : RevocationConfig)
    (retention : RetentionPolicy) (health : HealthStatus) (verbs : List BindingVerb)
    (admits : (bindings serde).Admits
      (freshEnvironment envId name hostConfig revocation retention health) verbs) :
    ∀ env ∈ (bindings serde).states
        (freshEnvironment envId name hostConfig revocation retention health) verbs,
      (env.packs.map (·.slot)).Nodup ∧
      (∀ binding ∈ env.packs, binding.slot.bindsInPacks = true) ∧
      (env.extensions.map fun b => (b.kind.path, b.instanceId)).Nodup := by
  intro env visited
  have bound : Bound serde env := by
    refine (bindings serde).invariant (Bound serde) persistBinding_bound _ verbs admits ?_ env
      visited
    exact ⟨Keyed.nil, Keyed.nil⟩
  refine ⟨bound.packs.distinct, fun b member => (bound.packs.each b member).1, ?_⟩
  have keys := bound.extensions.distinct.map
    (f := fun key : ExtensionKey => (key.kindPath, key.instanceId)) (by
      intro a b same
      cases a
      cases b
      simpa using same)
  simpa only [List.map_map, Function.comp_def, ExtensionKey.fromBinding] using keys

/-- The JSON library on one pack binding: it renders and reads back that
binding, and refuses everything else. -/
def pinnedPackJson (binding : EnvPackBinding) (text : String) : SerdeJson :=
  .onText text (.refusing _ _) (.only binding) (.refusing _ _)

def secretsBinding : EnvPackBinding :=
  ⟨.secrets, ⟨"greentic.secrets.dev", "1.0.0"⟩, ⟨"dev"⟩, none, 0, none⟩

def secretsJson : SerdeJson := pinnedPackJson secretsBinding
  "\x7b\"generation\":0,\"kind\":\"greentic.secrets.dev@1.0.0\",\"pack_ref\":\"dev\",\"slot\":\"secrets\"\x7d"

/-- Merge a telemetry binding, bind the secrets slot, update it, roll it back. -/
def boundRun : List BindingVerb :=
  [.merge [⟨.telemetry, ⟨"greentic.telemetry.otlp", "1.0.0"⟩, ⟨"otlp"⟩, none, 0, none⟩] [],
    .addPack secretsBinding, .updatePack .secrets { secretsBinding with packRef := ⟨"vault"⟩ },
    .rollbackPack .secrets]

theorem bindings_distinct_of_boundRun :
    (((bindings secretsJson).run localFresh (boundRun.take 3)).packs.map
      fun b => (b.slot, b.generation)) = [(.telemetry, 0), (.secrets, 1)] ∧
    ∀ env ∈ (bindings secretsJson).states localFresh boundRun,
      (env.packs.map (·.slot)).Nodup ∧
      (∀ binding ∈ env.packs, binding.slot.bindsInPacks = true) ∧
      (env.extensions.map fun b => (b.kind.path, b.instanceId)).Nodup := by
  refine ⟨by decide, ?_⟩
  refine bindings_distinct secretsJson _ _ _ _ _ _ boundRun ⟨⟨?_, ?_⟩, nofun, trivial, trivial,
    trivial⟩
  · simp [mergedPacks, freshEnvironment, CapabilitySlot.bindsInPacks, PackTokenKeeps]
  · simp [mergedExtensions]

/-- A merge takes in a binding for a slot that never binds in `packs`. -/
theorem merge_binds_open_slot :
    ¬ ∀ binding ∈ ((bindings secretsJson).run localFresh
        [.merge [⟨.messaging, ⟨"greentic.messaging.slack", "1.0.0"⟩, ⟨"slack"⟩, none, 0, none⟩]
          []]).packs,
      binding.slot.bindsInPacks = true := by
  decide

end GreenticDeployer.Engine
