import GreenticDeployer.Local.VerbEnds

/-!
# Projections in step

The two projections follow the saved environment through every verb, although
most verbs refresh neither. What a failed refresh leaves behind, the next
successful verb of the group brings back, and a retried call is one.
-/

set_option maxHeartbeats 200000

namespace GreenticDeployer.Local.Projections

open Spec Engine Lib

variable {serde : SerdeJson} {ext : Externals} {disk : Disk}

structure Kept (serde : SerdeJson) (env : Environment) : Prop where
  well : WellKept serde env
  endpoints : (endpointIds env).Nodup

theorem inLocal_fresh {env : Environment} {verb : Verb} (fresh : verb.mintsFresh env = true) :
    (inLocal verb).mintsFresh env = true := by
  cases verb <;> exact fresh

theorem endpointIds_stamped {env : Environment} {id : MessagingEndpointId}
    {found : Located MessagingEndpoint} (ok : findEndpointIdx env id = .ok found)
    {changed : MessagingEndpoint} (same : changed.endpointId = found.hit.endpointId)
    (distinct : (endpointIds env).Nodup) :
    (endpointIds { env with messagingEndpoints := found.replace changed }).Nodup :=
  nodup_map_replace (findEndpointIdx_ok ok) same distinct

theorem endpointIds_persist (serde : SerdeJson) (ext : Externals) (env : Environment) (verb : Verb)
    (fresh : verb.mintsFresh env = true) (distinct : (endpointIds env).Nodup) :
    (endpointIds (persist serde ext env verb)).Nodup := by
  by_cases unlinked : verb.relinks = false
  · simp only [endpointIds, persist_endpoints serde ext env verb unlinked]
    exact distinct
  cases verb with
  | addMessagingEndpoint payload id key now provision =>
      refine persistMutated_of (fun after => (endpointIds after).Nodup) distinct ?_
      simp only [addMessagingEndpoint]
      repeat' split
      all_goals first
        | exact distinct
        | skip
      apply nodup_map_append distinct
      intro other member
      exact of_decide_eq_true (List.all_eq_true.mp fresh other member)
  | linkMessagingBundle id bundleId updatedBy key now =>
      refine persistMutated_of (fun after => (endpointIds after).Nodup) distinct ?_
      simp only [linkMessagingBundle]
      repeat' split
      all_goals first
        | exact distinct
        | exact endpointIds_stamped (by assumption) rfl distinct
  | unlinkMessagingBundle id bundleId updatedBy key now =>
      refine persistMutated_of (fun after => (endpointIds after).Nodup) distinct ?_
      simp only [unlinkMessagingBundle]
      repeat' split
      all_goals first
        | exact distinct
        | exact endpointIds_stamped (by assumption) rfl distinct
  | setMessagingWelcomeFlow payload key now =>
      refine persistMutated_of (fun after => (endpointIds after).Nodup) distinct ?_
      simp only [setMessagingWelcomeFlow]
      repeat' split
      all_goals first
        | exact distinct
        | exact endpointIds_stamped (by assumption) rfl distinct
  | removeMessagingEndpoint id =>
      simp only [persist, removeMessagingEndpoint]
      split
      · rename_i located
        exact nodup_map_remove located distinct
      · exact distinct
  | rotateMessagingWebhookSecret id updatedBy key now newRef provision =>
      refine persistMutated_of (fun after => (endpointIds after).Nodup) distinct ?_
      simp only [rotateMessagingWebhookSecret]
      repeat' split
      all_goals first
        | exact distinct
        | exact endpointIds_stamped (by assumption) rfl distinct
  | _ => exact absurd rfl unlinked

theorem Kept.stored (ext : Externals) {verb : Verb} (kept : Kept serde disk.env)
    (fresh : verb.mintsFresh disk.env = true) : Kept serde (stored serde ext disk verb) where
  well := kept.well.step ext (inLocal_fresh fresh)
  endpoints := endpointIds_persist serde ext disk.env _ (inLocal_fresh fresh) kept.endpoints

theorem outcome_ends (ext : Externals) {call : VerbCall} (kept : Kept serde disk.env)
    (fresh : call.verb.mintsFresh disk.env = true) :
    VerbEnd serde ext disk call.verb (outcome serde ext disk call).1
      (outcome serde ext disk call).2 :=
  (body_ends call.verb (kept.stored ext fresh).endpoints).finish call.turns

theorem VerbEnd.document {verb : Verb} {outcome : Except StoreError PUnit} {next : Disk}
    (ended : VerbEnd serde ext disk verb outcome next) :
    next.env = disk.env ∨ next.env = Projections.stored serde ext disk verb := by
  cases ended with
  | refused e own => exact .inl rfl
  | saved outcome still unlinked owes own => exact .inr rfl
  | config owes => exact .inr rfl
  | messages relinks after env config inStep => exact .inr env
  | behind e failed after env => exact .inr env
  | unsynced after env rest => exact .inr env

theorem Kept.step {call : VerbCall} (kept : Kept serde disk.env)
    (fresh : call.verb.mintsFresh disk.env = true) :
    Kept serde ((localStore serde ext).step disk call).env := by
  rcases (outcome_ends ext kept fresh).document with same | new
  · rw [localStore, same]
    exact kept
  · rw [localStore, new]
    exact kept.stored ext fresh

structure InStep (disk : Disk) : Prop where
  runtimeConfig : disk.runtimeConfig = runtimeConfigOf disk.env
  messaging : MessagingInStep disk.env disk

def owesRefresh (verb : Verb) : Bool := refreshesConfig verb || verb.relinks

/-- A refresh has failed: the verb ends in its error, or, when the save before it
replaced the document and then failed, never gets to it. -/
def refreshFailed (serde : SerdeJson) (ext : Externals) (disk : Disk) (call : VerbCall) : Bool :=
  match (outcome serde ext disk call).1 with
  | .ok _ => false
  | .error e => e.ofRefresh || owesRefresh call.verb && decide (e = .io .environment) &&
      decide ((outcome serde ext disk call).2.env ≠ disk.env)

theorem MessagingInStep.of_same {env env' : Environment} {next : Disk}
    (inStep : MessagingInStep env disk)
    (endpoints : env'.messagingEndpoints = env.messagingEndpoints)
    (files : next.endpoints = disk.endpoints) (index : next.index = disk.index) :
    MessagingInStep env' next where
  files := by
    intro id
    rw [files, endpoints]
    exact inStep.files id
  index := by
    rw [index, inStep.index]
    simp only [endpoints, materializeMessagingIndex]

theorem runtimeConfigOf_stored (kept : Kept serde disk.env) {verb : Verb}
    (still : movesSplits verb = false) :
    runtimeConfigOf (stored serde ext disk verb) = runtimeConfigOf disk.env := by
  have local_ : movesSplits (inLocal verb) = false := by
    cases verb <;> exact still
  simp only [runtimeConfigOf, stored, materialize_persist ext kept.well.routing local_]

theorem endpoints_stored {verb : Verb} (unlinked : verb.relinks = false) :
    (stored serde ext disk verb).messagingEndpoints = disk.env.messagingEndpoints := by
  apply persist_endpoints
  cases verb <;> exact unlinked

theorem still_of_relinks {verb : Verb} (relinks : verb.relinks = true) :
    movesSplits verb = false ∧ refreshesConfig verb = false := by
  cases verb <;> first
    | exact ⟨rfl, rfl⟩
    | cases relinks

theorem unlinked_of_refreshesConfig {verb : Verb} (owes : refreshesConfig verb = true) :
    verb.relinks = false := by
  cases verb <;> first
    | rfl
    | cases owes

theorem VerbEnd.inStep {verb : Verb} {result : Except StoreError PUnit} {next : Disk}
    (ended : VerbEnd serde ext disk verb result next) (kept : Kept serde disk.env)
    (inStep : InStep disk) (intact : ∀ e, result = .error e → e.ofRefresh = false)
    (synced : owesRefresh verb = true → result = .error (.io .environment) →
      next.env = disk.env) : InStep next := by
  have unlinkedStep : verb.relinks = false →
      MessagingInStep (Projections.stored serde ext disk verb) disk := fun unlinked =>
    inStep.messaging.of_same (endpoints_stored unlinked) rfl rfl
  cases ended with
  | refused e own => exact inStep
  | saved outcome still unlinked owes own =>
      refine ⟨?_, (unlinkedStep unlinked).of_same rfl rfl rfl⟩
      show disk.runtimeConfig = _
      rw [runtimeConfigOf_stored kept still, inStep.runtimeConfig]
  | config owes =>
      have unlinked := unlinked_of_refreshesConfig owes
      exact ⟨rfl, (unlinkedStep unlinked).of_same rfl rfl rfl⟩
  | messages relinks after env config synced =>
      refine ⟨?_, env ▸ synced⟩
      rw [config, env, runtimeConfigOf_stored kept (still_of_relinks relinks).1,
        inStep.runtimeConfig]
  | behind e failed after env =>
      have own := intact e rfl
      rw [failed] at own
      cases own
  | unsynced after env rest =>
      by_cases owes : owesRefresh verb = true
      · have same := synced owes rfl
        rw [same] at rest
        rw [rest]
        exact inStep
      · simp only [owesRefresh, Bool.or_eq_true, not_or, Bool.not_eq_true] at owes
        have still : movesSplits verb = false := by
          cases verb <;> first
            | rfl
            | cases owes.1
        rw [rest, env]
        refine ⟨?_, (unlinkedStep owes.2).of_same rfl rfl rfl⟩
        show disk.runtimeConfig = _
        rw [runtimeConfigOf_stored kept still, inStep.runtimeConfig]

theorem InStep.step {call : VerbCall} (inStep : InStep disk) (kept : Kept serde disk.env)
    (fresh : call.verb.mintsFresh disk.env = true)
    (calm : refreshFailed serde ext disk call = false) :
    InStep ((localStore serde ext).step disk call) := by
  have ended := outcome_ends ext kept fresh
  unfold refreshFailed at calm
  apply ended.inStep kept inStep
  · intro e failed
    rw [failed] at calm
    exact (Bool.or_eq_false_iff.mp calm).1
  · intro owes failed
    rw [failed] at calm
    simpa [StoreError.ofRefresh, owes] using calm

theorem VerbEnd.restores_config {verb : Verb} {next : Disk} {value : PUnit}
    (ended : VerbEnd serde ext disk verb (.ok value) next) (owes : refreshesConfig verb = true) :
    next.runtimeConfig = runtimeConfigOf next.env := by
  cases ended with
  | saved outcome still unlinked quiet own =>
      have wrong := quiet _ rfl
      rw [owes] at wrong
      cases wrong
  | config owes => rfl
  | messages relinks after env config inStep =>
      have wrong := (still_of_relinks relinks).2
      rw [owes] at wrong
      cases wrong

theorem VerbEnd.restores_messaging {verb : Verb} {next : Disk} {value : PUnit}
    (ended : VerbEnd serde ext disk verb (.ok value) next) (relinks : verb.relinks = true) :
    MessagingInStep next.env next := by
  cases ended with
  | saved outcome still unlinked quiet own =>
      rw [relinks] at unlinked
      cases unlinked
  | config owes =>
      have wrong := unlinked_of_refreshesConfig owes
      rw [relinks] at wrong
      cases wrong
  | messages relinks after env config inStep => exact env ▸ inStep

end GreenticDeployer.Local.Projections
