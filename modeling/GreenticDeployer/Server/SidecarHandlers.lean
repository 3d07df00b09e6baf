import GreenticDeployer.Server.Handlers

/-!
# Trust-root and backup handlers

The trust root is a row beside the environment: its verbs leave the document
alone and echo its revision. A backup captures the document with its sidecars
and audit history; a restore is a guarded write of what a backup captured; from
an exported one an import founds an environment.
-/

set_option maxHeartbeats 200000

namespace GreenticDeployer.Server

open Spec Engine Store Trust Lib

variable {V : Type} (cfg : Config V) (head : Head)

inductive FirstWriteRace where
  | retry
  | noOp
  deriving DecidableEq

def docAndPrecondition (current : Option (Loaded TrustRootDocument)) :
    TrustRootDocument × Option Precondition :=
  match current with
  | some loaded =>
    (loaded.value, some (.pinning loaded.revision.etag loaded.revision.generation))
  | none => (v1 [], none)

def loadTrustRootRow (ctx : Context) : Handling V (Option (Loaded TrustRootDocument)) :=
  ask (.loadTrustRoot ctx.envId) loadStorageError

/-- The shared course of the trust-root verbs: both loads come before the part
whose failure consults the ledger again. -/
def trustRootMutation (envId : Segment EnvId) (verb : String)
    (body : Context → EnvRevision → Option (Loaded TrustRootDocument) →
      Handling V (Response V)) : Except RemoteStoreError (Handler V) := do
  let envId ← parseSegment envId
  return {
    envId := envId
    noun := "trust-root"
    verb := verb
    enter := fun _ => .ok fun ctx => do
      let env ← loadEnvironment ctx
      let current ← loadTrustRootRow ctx
      withReplay ctx (body ctx env.revision current) }

/-- Apply and persist, converging concurrent first writes. A row once written is
never deleted, so the reload after a race finds one and the second attempt is
pinned; it is the last. -/
def persistTrustRootMutation (ctx : Context) (onRace : FirstWriteRace)
    (mutate : TrustRootDocument → TrustRootDocument)
    (prepare : Nat → TrustRootDocument → PreparedMutation V) :
    Nat → Option (Loaded TrustRootDocument) → Handling V (Option (PreparedMutation V))
  | 0, _ => Program.lift (.error (mapStorageError .preconditionRequired))
  | attempts + 1, current => do
    let (loadedDoc, precondition) := docAndPrecondition current
    let doc := mutate loadedDoc
    let prepared := prepare attempts doc
    match ← attempt (.upsertTrustRoot ctx.envId doc precondition (some prepared.journal)) with
    | .ok _ => return some prepared
    | .error .preconditionRequired =>
      match precondition, onRace with
      | none, .noOp => return none
      | none, .retry => do
        let reloaded ← loadTrustRootRow ctx
        persistTrustRootMutation ctx onRace mutate prepare attempts reloaded
      | some _, _ => Program.lift (.error (mapStorageError .preconditionRequired))
    | .error e => Program.lift (.error (mapStorageError e))

/-- The envelope of a trust-root verb echoes the environment's revision. -/
def prepareTrustRoot (ctx : Context) (revision : EnvRevision) (result : MutationResult)
    (attempt : Nat) : PreparedMutation V :=
  prepareMutationAudited cfg ctx result (some revision.generation) revision .ok attempt

def checkTrustedKey (key : TrustedKey) : Except RemoteStoreError TrustedKey :=
  (validateTrustedKey cfg.signing.keyIdForPublicKeyPem key).mapError .ofTrustRoot

def grantOperatorKey (ctx : Context) (current : Option (Loaded TrustRootDocument))
    (onRace : FirstWriteRace) (prepare : Nat → TrustRootSeed → PreparedMutation V) :
    Handling V (Option (PreparedMutation V)) := do
  let opKey ← Program.lift (loadServerOperatorKey ctx.head)
  let entry ← Program.lift (checkTrustedKey cfg ⟨opKey.keyId, opKey.publicPem⟩)
  persistTrustRootMutation ctx onRace (fun doc => { doc with keys := applyAdd doc.keys entry })
    (fun attempt doc => prepare attempt ⟨opKey.keyId, opKey.publicPem, doc.keys.length⟩) 2 current

def expectPersisted (granted : Option (PreparedMutation V)) : Handling V (Response V) :=
  match granted with
  | some prepared => return prepared.intoResponse
  | none => Program.lift (.error (.internal "Retry mode always persists"))

def bootstrapTrustRoot (envId : Segment EnvId) : Except RemoteStoreError (Handler V) :=
  trustRootMutation envId "bootstrap" fun ctx revision current => do
    let granted ← grantOperatorKey cfg ctx current .retry fun attempt seed =>
      prepareTrustRoot cfg ctx revision (.seed (some seed)) attempt
    expectPersisted granted

/-- Row existence is the gate of a seed. -/
def seedOperatorKey (ctx : Context) (revision : EnvRevision)
    (current : Option (Loaded TrustRootDocument)) : Handling V (Option (PreparedMutation V)) :=
  match current with
  | some _ => Program.lift (.ok none)
  | none => grantOperatorKey cfg ctx none .noOp fun attempt seed =>
      prepareTrustRoot cfg ctx revision (.seed (some seed)) attempt

/-- A seed that finds the row, at load or on its own write, still consumes the
key. -/
def seedTrustRoot (envId : Segment EnvId) : Except RemoteStoreError (Handler V) :=
  trustRootMutation envId "seed" fun ctx revision current => do
    match ← seedOperatorKey cfg ctx revision current with
    | some prepared => return prepared.intoResponse
    | none => commitJournal (prepareTrustRoot cfg ctx revision (.seed none) 2)

def addTrustedKey (envId : Segment EnvId) (key : TrustedKey) :
    Except RemoteStoreError (Handler V) :=
  trustRootMutation envId "add" fun ctx revision current => do
    let entry ← Program.lift (checkTrustedKey cfg key)
    let granted ← persistTrustRootMutation ctx .retry
      (fun doc => { doc with keys := applyAdd doc.keys entry })
      (fun attempt doc =>
        prepareTrustRoot cfg ctx revision (.keyAdded key.keyId doc.keys.length) attempt)
      2 current
    expectPersisted granted

/-- Removing an absent key writes no row: row absence is the seed gate. -/
def removeTrustedKey (envId : Segment EnvId) (keyId : String) :
    Except RemoteStoreError (Handler V) :=
  trustRootMutation envId "remove" fun ctx revision current => do
    let (doc, precondition) := docAndPrecondition current
    let removedPem := (doc.keys.find? fun k => eqIgnoreAsciiCase k.keyId keyId).map
      (·.publicKeyPem)
    let (removed, keys) := applyRemove doc.keys keyId
    let prepared := prepareTrustRoot cfg ctx revision
      (.keyRemoved keyId removedPem keys.length) 0
    if removed then do
      let _ ← ask (.upsertTrustRoot ctx.envId { doc with keys := keys } precondition
        (some prepared.journal)) mapStorageError
      return prepared.intoResponse
    else commitJournal prepared

def sha256Integrity (json : StoreJson V) (data : V) : StateIntegrity :=
  ⟨integrityAlgorithmSha256, json.sha256Of data⟩

def encodeSnapshot (snapshot : EnvSnapshot V) : Except RemoteStoreError V :=
  (cfg.json.snapshot.toValue snapshot).mapError fun _ => envelopeEncodeError

def createBackup (envId : Segment EnvId) : Except RemoteStoreError (Handler V) := do
  let envId ← parseSegment envId
  return {
    envId := envId
    noun := "backup"
    verb := "create"
    enter := fun _ => .ok fun ctx => withReplay ctx do
      let captured : EnvSnapshot V × EnvRevision ←
        ask (.loadEnvSnapshot ctx.envId) loadStorageError
      let (snapshot, revision) := captured
      let state ← Program.lift (encodeSnapshot cfg snapshot)
      let manifest : BackupManifest := {
        schema := ⟨SchemaVersion.backupManifestV1⟩
        backupId := head.backupId
        envId := ctx.envId
        createdAt := head.now
        generation := revision.generation
        integrity := sha256Integrity cfg.json snapshot.environment
        sizeBytes := cfg.json.textLength state }
      let prepared := prepareMutation cfg ctx (.backup manifest) (some revision.generation)
        revision
      let _ ← ask (.createBackup ⟨manifest, state, cfg.json.sha256Of state⟩
        (some prepared.journal)) mapStorageError
      return prepared.intoResponse }

def backupNotFound (envId : EnvId) (backupId : String) : RemoteStoreError :=
  .dependentNotFound (.text ("backup `" ++ backupId ++ "` not found in env `" ++ envId.asStr ++ "`"))

def deleteBackup (envId : Segment EnvId) (backupId : String) :
    Except RemoteStoreError (Handler V) := do
  let envId ← parseSegment envId
  return {
    envId := envId
    noun := "backup"
    verb := "delete"
    enter := fun _ => .ok fun ctx => withReplay ctx do
      let loaded ← loadEnvironment ctx
      let prepared := prepareMutation cfg ctx (.backupDeleted backupId)
        (some loaded.revision.generation) loaded.revision
      let deleted : Bool ← ask (.deleteBackup ctx.envId backupId (some prepared.journal))
        mapStorageError
      Program.lift (if deleted then .ok prepared.intoResponse
        else .error (backupNotFound ctx.envId backupId)) }

def loadStoredBackup (envId : EnvId) (backupId : String) : Handling V (StoredBackup V) :=
  Program.ask (.loadBackup envId backupId) fun reply =>
    match reply with
    | .error e => .error (loadStorageError e)
    | .ok none => .error (backupNotFound envId backupId)
    | .ok (some backup) => .ok backup

/-- No mutation: authorized like one, but without key, gate or journal. -/
def exportBackup (envId : Segment EnvId) (backupId : String) : Handling V (Response V) := do
  let envId ← Program.lift (parseSegment envId)
  let _ ← authorizeMutation cfg head envId "backup" "export"
  let backup ← loadStoredBackup envId backupId
  return ⟨200, .artifact ⟨⟨"greentic.backup-artifact.v1"⟩, backup.manifest, backup.state,
    backup.snapshotDigest⟩⟩

/-- A snapshot whose digest no longer matches is never applied. -/
def verifiedSnapshot (source : String) (state : V) (digest : String) :
    Except RemoteStoreError (EnvSnapshot V × Environment) := do
  ensure (cfg.json.sha256Of state = digest)
    (.integrityMismatch digest (cfg.json.sha256Of state))
  let snapshot ← (cfg.json.snapshot.fromValue state).mapError fun _ =>
    .internal (.text (source ++ " snapshot failed to decode"))
  let env ← (cfg.json.environment.fromValue snapshot.environment).mapError fun _ =>
    .internal (.text (source ++ " environment failed to decode"))
  return (snapshot, env)

def importEnvironment (envId : Segment EnvId) (artifact : BackupArtifact V) :
    Except RemoteStoreError (Handler V) := do
  let envId ← parseSegment envId
  return {
    envId := envId
    noun := "backup"
    verb := "import"
    enter := fun _ => .ok fun ctx => withReplay ctx do
      Program.lift (ensure (artifact.manifest.envId = ctx.envId)
        (.invalidRequest (.text ("artifact env_id `" ++ artifact.manifest.envId.asStr ++
          "` does not match path `" ++ ctx.envId.asStr ++ "`"))))
      let (snapshot, env) ← Program.lift
        (verifiedSnapshot cfg "import" artifact.snapshot artifact.snapshotDigest)
      let next ← Program.lift (createdRevision cfg env)
      let prepared := prepareMutation cfg ctx
        (.imported next.generation artifact.manifest.integrity) none next
      let _ ← ask (.importEnv ctx.envId snapshot (some prepared.journal)) mapStorageError
      return prepared.intoResponse }

/-- The caller's pin is checked against the loaded revision; the commit then
pins that revision in full. -/
def restoreLoaded (ctx : Context) (backupId : String) (precondition : Precondition) :
    Handling V (Response V) := do
  Program.lift (ensure precondition.isConditional
    (.preconditionRequired "restore requires a precondition that pins prior state"))
  let backup ← loadStoredBackup ctx.envId backupId
  let (snapshot, env) ← Program.lift
    (verifiedSnapshot cfg "backup" backup.state backup.snapshotDigest)
  let loaded ← loadEnvironment ctx
  Program.lift ((precondition.check loaded.revision.etag loaded.revision.generation).mapError
    .ofPrecondition)
  let next ← Program.lift (nextRevision cfg env loaded.revision)
  let prepared := prepareMutation cfg ctx
    (.restored next.generation backup.manifest.integrity) (some loaded.revision.generation) next
  let _ ← ask (.restoreEnv ctx.envId snapshot (resolvePrecondition none loaded.revision)
    (some prepared.journal)) mapStorageError
  return prepared.intoResponse

def restoreEnvironment (envId : Segment EnvId) (backupId : String)
    (precondition : Precondition) : Except RemoteStoreError (Handler V) := do
  let envId ← parseSegment envId
  return {
    envId := envId
    noun := "backup"
    verb := "restore"
    enter := fun _ => .ok fun ctx => withReplay ctx (restoreLoaded cfg ctx backupId precondition) }

end GreenticDeployer.Server
