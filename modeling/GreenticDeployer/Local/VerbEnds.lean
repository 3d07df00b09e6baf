import GreenticDeployer.Local.Refreshes
import GreenticDeployer.Engine.PersistRule

/-!
# How a verb of the local store may end

The ends of every verb, said once: refused with nothing changed, saved where it
owes no refresh, refreshed, or left behind by a refresh that failed.
-/

set_option maxHeartbeats 200000

namespace GreenticDeployer.Local.Projections

open Spec Engine Lib

/-- The verb as this store runs it. -/
def inLocal : Verb → Verb
  | .rotateMessagingWebhookSecret id updatedBy key now _ provision =>
    .rotateMessagingWebhookSecret id updatedBy key now none provision
  | verb => verb

def refreshesConfig : Verb → Bool
  | .warmRevision .. => true
  | .drainRevision _ => true
  | .archiveRevision _ => true
  | verb => movesSplits verb

variable (serde : SerdeJson) (ext : Externals)

def stored (disk : Disk) (verb : Verb) : Environment := persist serde ext disk.env (inLocal verb)

inductive VerbEnd (disk : Disk) (verb : Verb) : Except StoreError PUnit.{1} → Disk → Prop
  | refused (e : StoreError) (own : e.ofRefresh = false) : VerbEnd disk verb (.error e) disk
  | saved (outcome : Except StoreError PUnit.{1}) (still : movesSplits verb = false)
      (unlinked : verb.relinks = false)
      (owes : ∀ value, outcome = .ok value → refreshesConfig verb = false)
      (own : ∀ e, outcome = .error e → e.ofRefresh = false) :
      VerbEnd disk verb outcome { disk with env := stored serde ext disk verb }
  | config (owes : refreshesConfig verb = true) :
      VerbEnd disk verb (.ok ⟨⟩) { disk with
        env := stored serde ext disk verb
        runtimeConfig := runtimeConfigOf (stored serde ext disk verb) }
  | messages (relinks : verb.relinks = true) (next : Disk)
      (env : next.env = stored serde ext disk verb)
      (config : next.runtimeConfig = disk.runtimeConfig)
      (inStep : MessagingInStep (stored serde ext disk verb) next) :
      VerbEnd disk verb (.ok ⟨⟩) next
  | behind (e : StoreError) (failed : e.ofRefresh = true) (next : Disk)
      (env : next.env = stored serde ext disk verb) : VerbEnd disk verb (.error e) next
  | unsynced (next : Disk) (env : next.env = stored serde ext disk verb)
      (rest : next = { disk with env := next.env }) :
      VerbEnd disk verb (.error (.io .environment)) next

variable {serde ext} {disk : Disk} {verb : Verb}

/-- A save: done, refused with nothing changed, or failed with the file replaced. -/
theorem save_ends {env : Environment} {post : Except StoreError PUnit → Disk → Prop}
    (succeeds : post (.ok ⟨⟩) { disk with env := env })
    (refused : ∀ e, e.ofRefresh = false → post (.error e) disk)
    (unsynced : post (.error (.io .environment)) { disk with env := env }) :
    Program.Ends access post (save ext env) disk := by
  unfold save
  split
  · exact .throw (refused _ rfl)
  · exact replacing_ends _ (fun _ => rfl) (fun _ => rfl) succeeds (refused _ rfl) unsynced

/-- The save before a refresh: on success the verb goes on from the new document. -/
def Saving (serde : SerdeJson) (ext : Externals) (disk : Disk) (verb : Verb) :
    Except StoreError PUnit.{1} → Disk → Prop :=
  Program.Either (fun next => next = { disk with env := stored serde ext disk verb })
    fun e next => VerbEnd serde ext disk verb (.error e) next

theorem save_stored :
    Program.Ends access (Saving serde ext disk verb) (save ext (stored serde ext disk verb))
      disk := by
  apply save_ends
  · rfl
  · exact fun e own => .refused e own
  · exact .unsynced _ rfl rfl

theorem saveOnly_ends {env : Environment} (same : env = stored serde ext disk verb)
    (still : movesSplits verb = false) (unlinked : verb.relinks = false)
    (quiet : refreshesConfig verb = false) :
    Program.Ends access (VerbEnd serde ext disk verb) (save ext env) disk := by
  subst same
  apply save_ends
  · exact .saved _ still unlinked (fun _ _ => quiet) (fun _ wrong => by cases wrong)
  · exact fun e own => .refused e own
  · exact .saved _ still unlinked (fun _ wrong => by cases wrong) (fun _ same => by cases same; rfl)

theorem saveOk_ends {ε τ : Type} {wrap : ε → StoreError} {apply : Environment → Outcome ε τ}
    (wraps : ∀ e, (wrap e).ofRefresh = false)
    (kept : ∀ result after, apply disk.env = (.ok result, after) →
      after = stored serde ext disk verb)
    (still : movesSplits verb = false) (unlinked : verb.relinks = false)
    (quiet : refreshesConfig verb = false) :
    Program.Ends access (VerbEnd serde ext disk verb) (saveOk ext wrap apply) disk := by
  apply load_then (.refused _ rfl)
  rcases applied : apply disk.env with ⟨result, after⟩
  cases result with
  | error e => exact .throw (.refused _ (wraps e))
  | ok value => exact saveOnly_ends (kept value after applied) still unlinked quiet

theorem refreshed_ends {env : Environment} (owes : refreshesConfig verb = true)
    (saved : disk.env = stored serde ext disk verb)
    (same : runtimeConfigOf env = runtimeConfigOf (stored serde ext disk verb)) :
    Program.Ends access (VerbEnd serde ext disk verb) (refreshRuntimeConfig env) disk := by
  apply (refreshRuntimeConfig_ends env disk).mono
  intro outcome next ended
  cases outcome with
  | ok value =>
      have after : next = { disk with
          env := stored serde ext disk verb
          runtimeConfig := runtimeConfigOf (stored serde ext disk verb) } := by
        rw [← same, ← saved]
        exact ended
      rw [after]
      exact .config owes
  | error e =>
      obtain ⟨failed, cfg, rfl⟩ := ended
      exact .behind e failed _ saved

theorem saveAndRefresh_ends {env : Environment} (owes : refreshesConfig verb = true)
    (same : env = stored serde ext disk verb) :
    Program.Ends access (VerbEnd serde ext disk verb)
      (save ext env >>= fun _ => committed (refreshRuntimeConfig env)) disk := by
  subst same
  apply save_stored.andThen
  · exact fun e next ended => ended
  intro _ next saved
  apply committed_ends (refreshRuntimeConfig_ends _ next)
  · intro value after ended
    have left : after = { disk with
        env := stored serde ext disk verb
        runtimeConfig := runtimeConfigOf (stored serde ext disk verb) } := by
      rw [show after = _ from ended, show next = _ from saved]
    rw [left]
    exact .config owes
  · rintro e after ⟨-, cfg, rfl⟩
    exact .behind _ rfl _ (by rw [show next = _ from saved])

theorem runRevisionTransition_ends
    {apply : Environment → Outcome RevisionLifecycleError RevisionTransition}
    (kept : ∀ result after, apply disk.env = (.ok result, after) →
      after = stored serde ext disk verb)
    (red : ∀ e after, apply disk.env = (.error e, after) → e.envMutated = true →
      after = stored serde ext disk verb)
    (owes : refreshesConfig verb = true) (still : movesSplits verb = false)
    (unlinked : verb.relinks = false) :
    Program.Ends access (VerbEnd serde ext disk verb) (runRevisionTransition ext apply) disk := by
  apply load_then (.refused _ rfl)
  rcases applied : apply disk.env with ⟨result, after⟩
  cases result with
  | ok value => exact saveAndRefresh_ends owes (kept value after applied)
  | error e =>
      dsimp only
      split
      · rename_i gated
        have same := red e after applied gated
        subst same
        apply save_stored.andThen
        · exact fun e next ended => ended
        intro _ next saved
        rw [show next = _ from saved]
        exact .throw (.saved _ still unlinked (fun _ wrong => by cases wrong)
          (fun _ same => by cases same; rfl))
      · exact .throw (.refused _ rfl)

theorem reroute_ends {ε τ : Type} {wrap : ε → StoreError} {mutated : τ → Bool}
    {apply : Environment → Outcome ε τ} (wraps : ∀ e, (wrap e).ofRefresh = false)
    (kept : ∀ result after, apply disk.env = (.ok result, after) → mutated result = true →
      after = stored serde ext disk verb)
    (replay : ∀ result after, apply disk.env = (.ok result, after) → mutated result = false →
      disk.env = stored serde ext disk verb ∧
        materializeRuntimeConfig after = materializeRuntimeConfig disk.env)
    (owes : refreshesConfig verb = true) :
    Program.Ends access (VerbEnd serde ext disk verb) (reroute ext wrap mutated apply) disk := by
  apply load_then (.refused _ rfl)
  rcases applied : apply disk.env with ⟨result, after⟩
  cases result with
  | error e => exact .throw (.refused _ (wraps e))
  | ok value =>
      cases moved : mutated value with
      | true =>
          simp only [persistIf, moved, if_true]
          exact saveAndRefresh_ends owes (kept value after applied moved)
      | false =>
          simp only [persistIf, moved, Bool.false_eq_true, if_false]
          have quiet := replay value after applied moved
          apply refreshed_ends owes quiet.1
          rw [← quiet.1]
          simp only [runtimeConfigOf, quiet.2]

theorem finishMessagingMutation_ends {env : Environment} {mutated : Bool}
    (relinks : verb.relinks = true) (same : env = stored serde ext disk verb)
    (replay : mutated = false → disk.env = stored serde ext disk verb)
    (distinct : (endpointIds (stored serde ext disk verb)).Nodup) :
    Program.Ends access (VerbEnd serde ext disk verb) (finishMessagingMutation ext env mutated)
      disk := by
  subst same
  have first : Program.Ends access (Saving serde ext disk verb)
      (saveIf ext mutated (stored serde ext disk verb)) disk := by
    cases mutated with
    | true => exact save_stored
    | false =>
        apply Program.Ends.pure
        show disk = _
        rw [← replay rfl]
  apply first.andThen
  · exact fun e next ended => ended
  intro _ next saved
  have named : next = { disk with env := stored serde ext disk verb } := saved
  apply committed_ends (refreshMessagingProjection_ends distinct next)
  · rintro value after ⟨only, inStep⟩
    rw [named] at only
    exact .messages relinks after only.1 only.2 inStep
  · rintro e after ⟨only, -⟩
    rw [named] at only
    exact .behind _ rfl after only.1

theorem relink_ends {apply : Environment → Outcome MessagingError MessagingApplied}
    (relinks : verb.relinks = true)
    (kept : ∀ applied after, apply disk.env = (.ok applied, after) →
      after = stored serde ext disk verb ∧
        (applied.mutated = false → disk.env = stored serde ext disk verb))
    (distinct : (endpointIds (stored serde ext disk verb)).Nodup) :
    Program.Ends access (VerbEnd serde ext disk verb) (relink ext apply) disk := by
  apply load_then (.refused _ rfl)
  rcases applied : apply disk.env with ⟨result, after⟩
  cases result with
  | error e => exact .throw (.refused _ rfl)
  | ok value =>
      have left := kept value after applied
      exact finishMessagingMutation_ends relinks left.1 left.2 distinct

theorem persist_endpoints (serde : SerdeJson) (ext : Externals) (env : Environment) (verb : Verb)
    (unlinked : verb.relinks = false) :
    (persist serde ext env verb).messagingEndpoints = env.messagingEndpoints := by
  have edited : ∀ {id after}, RevisionEdit id env after →
      after.messagingEndpoints = env.messagingEndpoints := by
    intro id after edit
    cases edit <;> rfl
  by_cases rebinds : verb.rebinds = true
  · rw [persist_rebound ext env verb rebinds]
  by_cases reroutes : verb.reroutes = true
  · rw [persist_rerouted ext env verb reroutes]
  by_cases redeploys : verb.redeploys = true
  · rw [persist_redeployed ext env verb redeploys]
  cases verb with
  | updateEnvironment patch => rfl
  | stageRevision payload now => exact edited (persist_stage env payload now)
  | warmRevision payload now => exact edited (persist_warm env payload now)
  | drainRevision id => exact edited (persist_drain env id)
  | archiveRevision id => exact edited (persist_archive env id)
  | removeBundle id =>
      refine persistOk_of (fun after => after.messagingEndpoints = env.messagingEndpoints) rfl ?_
      simp only [removeBundle]
      repeat' split
      all_goals rfl
  | _ => simp_all [Verb.reroutes, Verb.rebinds, Verb.redeploys, Verb.relinks]

theorem body_ends (verb : Verb) (distinct : (endpointIds (stored serde ext disk verb)).Nodup) :
    Program.Ends access (VerbEnd serde ext disk verb) (body serde ext verb) disk := by
  cases verb with
  | updateEnvironment patch =>
      exact load_then (.refused _ rfl) (saveOnly_ends rfl rfl rfl rfl)
  | mergeBindings packs extensions =>
      exact load_then (.refused _ rfl) (saveOnly_ends rfl rfl rfl rfl)
  | stageRevision payload now =>
      refine saveOk_ends (fun _ => rfl) ?_ rfl rfl rfl
      intro result after applied
      simp only [stored, inLocal, persist, applied, persistRevision]
  | warmRevision payload now =>
      refine runRevisionTransition_ends ?_ ?_ rfl rfl rfl
      · intro result after applied
        simp only [stored, inLocal, persist, applied, persistRevision]
      · intro e after applied gated
        simp only [stored, inLocal, persist, applied, persistRevision, gated, if_true]
  | drainRevision id =>
      refine runRevisionTransition_ends ?_ ?_ rfl rfl rfl
      · intro result after applied
        simp only [stored, inLocal, persist, applied, persistRevision]
      · intro e after applied gated
        simp only [stored, inLocal, persist, applied, persistRevision, gated, if_true]
  | archiveRevision id =>
      refine runRevisionTransition_ends ?_ ?_ rfl rfl rfl
      · intro result after applied
        simp only [stored, inLocal, persist, applied, persistRevision]
      · intro e after applied gated
        simp only [stored, inLocal, persist, applied, persistRevision, gated, if_true]
  | setTrafficSplit payload key now =>
      have atomic : Atomic disk.env (reported (·.mutated)
          (setTrafficSplit serde disk.env payload key now)) := setTrafficSplit_atomic ..
      refine reroute_ends (fun _ => rfl) ?_ ?_ rfl
      · exact fun result after applied _ => (atomic.kept applied).1
      · intro result after applied still
        rw [atomic.quiet applied still]
        exact ⟨(atomic.kept applied).2 still, rfl⟩
  | rollbackTrafficSplit id now =>
      refine reroute_ends (fun _ => rfl) ?_ (fun _ _ _ wrong => by cases wrong) rfl
      intro result after applied _
      simp only [stored, inLocal, persist, applied, persistOk]
  | clearTrafficSplit id =>
      have atomic := clearTrafficSplit_atomic disk.env id
      refine reroute_ends (fun _ => rfl) ?_ ?_ rfl
      · exact fun result after applied _ => (atomic.kept applied).1
      · intro result after applied still
        rw [atomic.quiet applied still]
        exact ⟨(atomic.kept applied).2 still, rfl⟩
  | addBundle payload id now policyRef =>
      apply load_then (.refused _ rfl)
      rcases applied : addBundle disk.env payload id now with ⟨result, after⟩
      cases result with
      | error e => exact .throw (.refused _ rfl)
      | ok index =>
          apply attempt_then (fun _ => rfl) (.refused _ rfl)
          intro _
          refine saveOnly_ends ?_ rfl rfl rfl
          simp only [stored, inLocal, persist, applied]
  | updateBundle payload policyRef =>
      apply load_then (.refused _ rfl)
      rcases updated : updateBundle disk.env payload with ⟨result, after⟩
      cases result with
      | error e => exact .throw (.refused _ rfl)
      | ok applied =>
          dsimp only
          split
          · rename_i repriced
            apply attempt_then (fun _ => rfl) (.refused _ rfl)
            intro _
            refine saveOnly_ends ?_ rfl rfl rfl
            simp only [stored, inLocal, persist, updated, repriced, if_true]
          · rename_i plain
            refine saveOnly_ends ?_ rfl rfl rfl
            simp only [stored, inLocal, persist, updated, plain, Bool.false_eq_true, if_false]
  | removeBundle id =>
      refine saveOk_ends (fun _ => rfl) ?_ rfl rfl rfl
      intro result after applied
      simp only [stored, inLocal, persist, applied, persistOk]
  | beginRetire id =>
      refine reroute_ends (fun _ => rfl) ?_ ?_ rfl
      · intro result after applied moved
        simp only [stored, inLocal, persist, applied, persistMutated, moved, if_true]
      · intro result after applied still
        refine ⟨?_, by rw [(beginRetire_atomic disk.env id).quiet applied still]⟩
        simp only [stored, inLocal, persist, applied, persistMutated, still, Bool.false_eq_true,
          if_false]
  | addMessagingEndpoint payload id key now provision =>
      exact relink_ends rfl
        (fun _ _ applied => (addMessagingEndpoint_atomic ..).kept applied) distinct
  | linkMessagingBundle id bundleId updatedBy key now =>
      exact relink_ends rfl
        (fun _ _ applied => (linkMessagingBundle_atomic ..).kept applied) distinct
  | unlinkMessagingBundle id bundleId updatedBy key now =>
      exact relink_ends rfl
        (fun _ _ applied => (unlinkMessagingBundle_atomic ..).kept applied) distinct
  | setMessagingWelcomeFlow payload key now =>
      exact relink_ends rfl
        (fun _ _ applied => (setMessagingWelcomeFlow_atomic ..).kept applied) distinct
  | removeMessagingEndpoint id =>
      apply load_then (.refused _ rfl)
      refine finishMessagingMutation_ends rfl rfl ?_ distinct
      intro still
      simp only [stored, inLocal, persist, removeMessagingEndpoint] at still ⊢
      split at still
      · cases still
      · rfl
  | rotateMessagingWebhookSecret id updatedBy key now newRef provision =>
      apply load_then (.refused _ rfl)
      split
      · rcases applied : rotateMessagingWebhookSecret ext disk.env id updatedBy key now none
          provision with ⟨result, after⟩
        cases result with
        | error e => exact .throw (.refused _ rfl)
        | ok value =>
            have left := (rotateMessagingWebhookSecret_atomic ..).kept applied
            exact finishMessagingMutation_ends rfl left.1 left.2 distinct
      · exact .throw (.refused _ rfl)
  | _ =>
      refine saveOk_ends (fun _ => rfl) ?_ rfl rfl rfl
      intro result after applied
      simp only [stored, inLocal, persist, applied, persistOk]

end GreenticDeployer.Local.Projections
