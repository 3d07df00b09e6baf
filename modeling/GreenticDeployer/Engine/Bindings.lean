import GreenticDeployer.Engine.Traffic

/-!
# Pack and extension bindings

The two binding families differ in what identifies a binding: a slot of the
closed enumeration, or a descriptor path with an optional instance.
-/

set_option maxHeartbeats 200000

namespace GreenticDeployer.Engine

open Spec Lib

structure ExtensionKey where
  kindPath : String
  instanceId : Option String
  deriving DecidableEq, Repr

namespace ExtensionKey

def fromBinding (b : ExtensionBinding) : ExtensionKey := ⟨b.kind.path, b.instanceId⟩

def isKeyOf (key : ExtensionKey) (b : ExtensionBinding) : Bool :=
  b.kind.path = key.kindPath ∧ b.instanceId = key.instanceId

def toString (key : ExtensionKey) : String :=
  match key.instanceId with
  | some inst => key.kindPath ++ "/" ++ inst
  | none => key.kindPath

theorem isKeyOf_iff (key : ExtensionKey) (b : ExtensionBinding) :
    key.isKeyOf b = true ↔ fromBinding b = key := by
  cases key
  simp [isKeyOf, fromBinding]

end ExtensionKey

inductive BindingError where
  | slotAlreadyBound (slot : CapabilitySlot) (envId : EnvId)
  | slotNotBound (slot : CapabilitySlot) (envId : EnvId)
  | slotMismatch (bindingSlot targetSlot : CapabilitySlot)
  | notPackSlot (slot : CapabilitySlot)
  | slotNoPrevious (slot : CapabilitySlot) (envId : EnvId)
  | slotSnapshotMissing (prevRef : PathBuf) (slot : CapabilitySlot)
  | slotGenerationOverflow (slot : CapabilitySlot) (envId : EnvId) (generation : UInt64)
  | extensionAlreadyBound (key : ExtensionKey) (envId : EnvId)
  | extensionNotBound (key : ExtensionKey) (envId : EnvId)
  | extensionKeyMismatch (bindingKey targetKey : ExtensionKey)
  | extensionNoPrevious (key : ExtensionKey) (envId : EnvId)
  | extensionSnapshotMissing (prevRef : PathBuf) (key : ExtensionKey)
  | extensionGenerationOverflow (key : ExtensionKey) (envId : EnvId) (generation : UInt64)
  | snapshotEncode (detail : String)
  | snapshotDecode (detail : String)
  deriving DecidableEq, Repr

/-- `checked_add(1)`. -/
def checkedSucc (generation : UInt64) : Option UInt64 :=
  if generation = 0xFFFFFFFFFFFFFFFF then none else some (generation + 1)

def findPackSlot (env : Environment) (slot : CapabilitySlot) :
    Except BindingError (Located EnvPackBinding) :=
  match locate (fun b => b.slot = slot) env.packs with
  | none => .error (.slotNotBound slot env.environmentId)
  | some found => .ok found

def findExtension (env : Environment) (key : ExtensionKey) :
    Except BindingError (Located ExtensionBinding) :=
  match locate (fun b => key.isKeyOf b) env.extensions with
  | none => .error (.extensionNotBound key env.environmentId)
  | some found => .ok found

/-- What the two families differ in where a binding is updated or rolled back. -/
structure BindingKind (serde : SerdeJson) (α : Type) where
  find : Environment → Except BindingError (Located α)
  checkAddressed : α → Except BindingError Unit
  generation : α → UInt64
  previousBindingRef : α → Option PathBuf
  stamped : UInt64 → Option PathBuf → α → α
  codec : JsonCodec serde.Value α
  write : Environment → List α → Environment
  generationOverflow : EnvId → UInt64 → BindingError
  noPrevious : EnvId → BindingError
  snapshotMissing : PathBuf → BindingError

namespace BindingKind

variable {serde : SerdeJson} {α : Type} (kind : BindingKind serde α)

/-- The prior binding is stashed without its own stash. -/
def update (env : Environment) (binding : α) : Outcome BindingError (α × UInt64) :=
  match kind.find env with
  | .error e => (.error e, env)
  | .ok found =>
    match kind.checkAddressed binding with
    | .error e => (.error e, env)
    | .ok () =>
      match checkedSucc (kind.generation found.hit) with
      | none =>
        (.error (kind.generationOverflow env.environmentId (kind.generation found.hit)), env)
      | some generation =>
        match kind.codec.toValue (kind.stamped (kind.generation found.hit) none found.hit) with
        | .error detail => (.error (.snapshotEncode detail), env)
        | .ok snapshot =>
          let updated := kind.stamped generation (some (stashInline serde snapshot)) binding
          (.ok (updated, generation), kind.write env (found.replace updated))

def rollback (env : Environment) : Outcome BindingError (α × UInt64) :=
  match kind.find env with
  | .error e => (.error e, env)
  | .ok found =>
    match checkedSucc (kind.generation found.hit) with
    | none => (.error (kind.generationOverflow env.environmentId (kind.generation found.hit)), env)
    | some generation =>
      match kind.previousBindingRef found.hit with
      | none => (.error (kind.noPrevious env.environmentId), env)
      | some prevRef =>
        match loadInline serde prevRef with
        | none => (.error (kind.snapshotMissing prevRef), env)
        | some value =>
          match kind.codec.fromValue value with
          | .error detail => (.error (.snapshotDecode detail), env)
          | .ok snapshot =>
            let restored := kind.stamped generation none snapshot
            (.ok (restored, generation), kind.write env (found.replace restored))

theorem update_cases (env : Environment) (binding : α) :
    (∃ e, kind.update env binding = (.error e, env)) ∨
      ∃ found next snapshot, kind.find env = .ok found ∧ kind.checkAddressed binding = .ok () ∧
        checkedSucc (kind.generation found.hit) = some next ∧
        kind.codec.toValue (kind.stamped (kind.generation found.hit) none found.hit) =
          .ok snapshot ∧
        kind.update env binding =
          (.ok (kind.stamped next (some (stashInline serde snapshot)) binding, next),
            kind.write env (found.replace
              (kind.stamped next (some (stashInline serde snapshot)) binding))) := by
  unfold update
  split
  · exact .inl ⟨_, rfl⟩
  rename_i found located
  split
  · exact .inl ⟨_, rfl⟩
  rename_i addressed
  split
  · exact .inl ⟨_, rfl⟩
  rename_i next room
  split
  · exact .inl ⟨_, rfl⟩
  rename_i snapshot encoded
  exact .inr ⟨found, next, snapshot, located, addressed, room, encoded, rfl⟩

theorem rollback_cases (env : Environment) :
    (∃ e, kind.rollback env = (.error e, env)) ∨
      ∃ found next token value snapshot, kind.find env = .ok found ∧
        checkedSucc (kind.generation found.hit) = some next ∧
        kind.previousBindingRef found.hit = some token ∧ loadInline serde token = some value ∧
        kind.codec.fromValue value = .ok snapshot ∧
        kind.rollback env = (.ok (kind.stamped next none snapshot, next),
          kind.write env (found.replace (kind.stamped next none snapshot))) := by
  unfold rollback
  split
  · exact .inl ⟨_, rfl⟩
  rename_i found located
  split
  · exact .inl ⟨_, rfl⟩
  rename_i next room
  split
  · exact .inl ⟨_, rfl⟩
  rename_i token stashed
  split
  · exact .inl ⟨_, rfl⟩
  rename_i value loaded
  split
  · exact .inl ⟨_, rfl⟩
  rename_i snapshot decoded
  exact .inr ⟨found, next, token, value, snapshot, located, room, stashed, loaded, decoded, rfl⟩

end BindingKind

variable (serde : SerdeJson)

def addPackBinding (env : Environment) (binding : EnvPackBinding) :
    Outcome BindingError EnvPackBinding :=
  if ¬ binding.slot.bindsInPacks then (.error (.notPackSlot binding.slot), env)
  else if (env.packForSlot binding.slot).isSome then
    (.error (.slotAlreadyBound binding.slot env.environmentId), env)
  else (.ok binding, { env with packs := env.packs ++ [binding] })

def packKind (slot : CapabilitySlot) : BindingKind serde EnvPackBinding where
  find := fun env => findPackSlot env slot
  checkAddressed := fun binding =>
    if binding.slot ≠ slot then .error (.slotMismatch binding.slot slot) else .ok ()
  generation := (·.generation)
  previousBindingRef := (·.previousBindingRef)
  stamped := fun generation prevRef binding =>
    { binding with generation := generation, previousBindingRef := prevRef }
  codec := serde.pack
  write := fun env packs => { env with packs := packs }
  generationOverflow := .slotGenerationOverflow slot
  noPrevious := .slotNoPrevious slot
  snapshotMissing := fun prevRef => .slotSnapshotMissing prevRef slot

def updatePackBinding (env : Environment) (slot : CapabilitySlot) (binding : EnvPackBinding) :
    Outcome BindingError (EnvPackBinding × UInt64) :=
  if ¬ slot.bindsInPacks then (.error (.notPackSlot slot), env)
  else (packKind serde slot).update env binding

def removePackBinding (env : Environment) (slot : CapabilitySlot) :
    Outcome BindingError (EnvPackBinding × UInt64) :=
  match findPackSlot env slot with
  | .error e => (.error e, env)
  | .ok found => (.ok (found.hit, found.hit.generation), { env with packs := found.remove })

def rollbackPackBinding (env : Environment) (slot : CapabilitySlot) :
    Outcome BindingError (EnvPackBinding × UInt64) :=
  (packKind serde slot).rollback env

def addExtensionBinding (env : Environment) (binding : ExtensionBinding) :
    Outcome BindingError ExtensionBinding :=
  let key := ExtensionKey.fromBinding binding
  if env.extensions.any fun b => key.isKeyOf b then
    (.error (.extensionAlreadyBound key env.environmentId), env)
  else (.ok binding, { env with extensions := env.extensions ++ [binding] })

def extensionKind (key : ExtensionKey) : BindingKind serde ExtensionBinding where
  find := fun env => findExtension env key
  checkAddressed := fun binding =>
    if ExtensionKey.fromBinding binding ≠ key then
      .error (.extensionKeyMismatch (ExtensionKey.fromBinding binding) key)
    else .ok ()
  generation := (·.generation)
  previousBindingRef := (·.previousBindingRef)
  stamped := fun generation prevRef binding =>
    { binding with generation := generation, previousBindingRef := prevRef }
  codec := serde.extension
  write := fun env extensions => { env with extensions := extensions }
  generationOverflow := .extensionGenerationOverflow key
  noPrevious := .extensionNoPrevious key
  snapshotMissing := fun prevRef => .extensionSnapshotMissing prevRef key

def updateExtensionBinding (env : Environment) (key : ExtensionKey) (binding : ExtensionBinding) :
    Outcome BindingError (ExtensionBinding × UInt64) :=
  (extensionKind serde key).update env binding

def removeExtensionBinding (env : Environment) (key : ExtensionKey) :
    Outcome BindingError (ExtensionBinding × UInt64) :=
  match findExtension env key with
  | .error e => (.error e, env)
  | .ok found => (.ok (found.hit, found.hit.generation), { env with extensions := found.remove })

def rollbackExtensionBinding (env : Environment) (key : ExtensionKey) :
    Outcome BindingError (ExtensionBinding × UInt64) :=
  (extensionKind serde key).rollback env

structure MergeReport where
  mergedSlots : List String
  mergedExtensions : List String
  deriving DecidableEq

def mergePacks (env : Environment) : List EnvPackBinding → List String × Environment
  | [] => ([], env)
  | binding :: rest =>
    if env.packs.any fun b => b.slot = binding.slot then mergePacks env rest
    else
      let (merged, after) := mergePacks { env with packs := env.packs ++ [binding] } rest
      (binding.slot.asStr :: merged, after)

def mergeExtensions (env : Environment) : List ExtensionBinding → List String × Environment
  | [] => ([], env)
  | binding :: rest =>
    let key := ExtensionKey.fromBinding binding
    if env.extensions.any fun b => key.isKeyOf b then mergeExtensions env rest
    else
      let (merged, after) :=
        mergeExtensions { env with extensions := env.extensions ++ [binding] } rest
      (key.toString :: merged, after)

theorem mergePacks_frame (env : Environment) (bindings : List EnvPackBinding) :
    (mergePacks env bindings).2 = { env with packs := (mergePacks env bindings).2.packs } := by
  induction bindings generalizing env with
  | nil => rfl
  | cons binding rest ih =>
      simp only [mergePacks]
      split
      · exact ih env
      · exact ih { env with packs := env.packs ++ [binding] }

theorem mergeExtensions_frame (env : Environment) (bindings : List ExtensionBinding) :
    (mergeExtensions env bindings).2 =
      { env with extensions := (mergeExtensions env bindings).2.extensions } := by
  induction bindings generalizing env with
  | nil => rfl
  | cons binding rest ih =>
      simp only [mergeExtensions]
      split
      · exact ih env
      · exact ih { env with extensions := env.extensions ++ [binding] }

def mergeBindings (env : Environment) (packs : List EnvPackBinding)
    (extensions : List ExtensionBinding) : MergeReport × Environment :=
  let (mergedSlots, withPacks) := mergePacks env packs
  let (mergedExtensions, after) := mergeExtensions withPacks extensions
  (⟨mergedSlots, mergedExtensions⟩, after)

end GreenticDeployer.Engine
