import GreenticDeployer.Store.Tables

/-!
# A JSON library to evaluate the store with

A value that keeps the document it was made from, in place of its text. The
round trips the store relies on hold by construction; the digest prints the
parts of a document that tell the versions of one environment apart.
-/

set_option maxHeartbeats 200000

namespace GreenticDeployer.Store

open Spec Engine

def BTreeMap.mapValues {V W : Type} (f : V → W) (map : BTreeMap V) : BTreeMap W where
  entries := map.entries.map fun entry => (entry.1, f entry.2)
  ascending := by
    rw [List.map_map]
    exact map.ascending

def AuditEntry.mapEvent {V W : Type} (f : V → W) (entry : AuditEntry V) : AuditEntry W :=
  ⟨entry.id, entry.eventId, entry.recordedAt, f entry.event⟩

namespace EnvSnapshot

variable {V W : Type}

def mapValues (f : V → W) (snapshot : EnvSnapshot V) : EnvSnapshot W where
  environment := f snapshot.environment
  runtime := snapshot.runtime.map f
  packAnswers := BTreeMap.mapValues f snapshot.packAnswers
  auditLog := snapshot.auditLog.map (AuditEntry.mapEvent f)
  auditRetention := snapshot.auditRetention

def allValues (p : V → Bool) (snapshot : EnvSnapshot V) : Bool :=
  p snapshot.environment && snapshot.runtime.all p &&
    snapshot.packAnswers.entries.all (fun entry => p entry.2) &&
    snapshot.auditLog.all fun entry => p entry.event

theorem mapValues_inverse (f : V → W) (g : W → V) (p : V → Bool)
    (inverse : ∀ v, p v = true → g (f v) = v) (snapshot : EnvSnapshot V)
    (all : snapshot.allValues p = true) : (snapshot.mapValues f).mapValues g = snapshot := by
  obtain ⟨environment, runtime, ⟨entries, ascending⟩, auditLog, retention⟩ := snapshot
  simp only [allValues, Bool.and_eq_true, List.all_eq_true, Option.all_eq_true] at all
  obtain ⟨⟨⟨first, second⟩, third⟩, fourth⟩ := all
  have answers : entries.map ((fun entry => (entry.1, g entry.2)) ∘
      fun entry => (entry.1, f entry.2)) = entries :=
    (List.map_congr_left fun entry member => by
      simp [inverse _ (third entry member)]).trans (List.map_id _)
  have history : auditLog.map (AuditEntry.mapEvent g ∘ AuditEntry.mapEvent f) = auditLog :=
    (List.map_congr_left fun entry member => by
      simp [AuditEntry.mapEvent, inverse _ (fourth entry member)]).trans (List.map_id _)
  have sidecar : (runtime.map f).map g = runtime := by
    cases runtime with
    | none => rfl
    | some data => simp [inverse _ (second data rfl)]
  simp only [mapValues, BTreeMap.mapValues, List.map_map, answers, history, sidecar,
    inverse _ first]

end EnvSnapshot

inductive PlainDoc where
  | environment (env : Environment)
  | runtime (runtime : EnvironmentRuntime)
  | trustRoot (doc : TrustRootDocument)
  | auditEvent (event : AuditEvent)

inductive PlainValue where
  | doc (doc : PlainDoc)
  | snapshot (snapshot : EnvSnapshot PlainDoc)

namespace PlainValue

def isDoc : PlainValue → Bool
  | doc _ => true
  | snapshot _ => false

def getDoc : PlainValue → PlainDoc
  | doc d => d
  | snapshot s => s.environment

theorem doc_getDoc (value : PlainValue) (plain : value.isDoc = true) : doc value.getDoc = value := by
  cases value with
  | doc d => rfl
  | snapshot s => cases plain

def shareText (share : List RevenueShareEntry) : String :=
  String.join (share.map fun entry => entry.partyId.asStr ++ "=" ++ toString entry.basisPoints.toNat)

def docDigest : PlainDoc → String
  | .environment env =>
    env.environmentId.asStr ++ "/" ++ env.name ++ String.join (env.bundles.map fun b =>
      "/" ++ b.revenuePolicyRef ++ ":" ++ shareText b.revenueShare)
  | .runtime runtime => "runtime/" ++ toString runtime.generation.toNat
  | .trustRoot root => "root/" ++ String.join (root.keys.map (·.keyId))
  | .auditEvent event => "event/" ++ event.eventId

def digest : PlainValue → String
  | doc d => docDigest d
  | snapshot s => "snapshot/" ++ docDigest s.environment ++ "/" ++ toString s.auditLog.length

/-- A document type that a tag embeds and a projection recovers. -/
def codec {α : Type} (tag : α → PlainDoc) (untag : PlainDoc → Option α)
    (untag_tag : ∀ a, untag (tag a) = some a) : JsonCodec PlainValue α where
  toValue := fun a => .ok (doc (tag a))
  fromValue := fun
    | doc d => match untag d with
      | some a => .ok a
      | none => .error "wrong document"
    | snapshot _ => .error "wrong document"
  fromValue_toValue := by
    intro a v encoded
    cases encoded
    simp only [untag_tag]

def snapshotCodec : JsonCodec PlainValue (EnvSnapshot PlainValue) where
  toValue := fun s =>
    if s.allValues isDoc then .ok (snapshot (s.mapValues getDoc)) else .error "nested snapshot"
  fromValue := fun
    | snapshot s => .ok (s.mapValues doc)
    | doc _ => .error "wrong document"
  fromValue_toValue := by
    intro s v encoded
    split at encoded
    · rename_i all
      cases encoded
      exact congrArg Except.ok (s.mapValues_inverse getDoc doc isDoc doc_getDoc all)
    · cases encoded

end PlainValue

def plainJson : StoreJson PlainValue where
  sha256Of := PlainValue.digest
  environment := PlainValue.codec .environment
    (fun | .environment env => some env | _ => none) fun _ => rfl
  runtime := PlainValue.codec .runtime
    (fun | .runtime runtime => some runtime | _ => none) fun _ => rfl
  trustRoot := PlainValue.codec .trustRoot
    (fun | .trustRoot doc => some doc | _ => none) fun _ => rfl
  snapshot := PlainValue.snapshotCodec
  auditEvent := fun event => .doc (.auditEvent event)
  textLength := fun value => value.digest.utf8ByteSize

end GreenticDeployer.Store
