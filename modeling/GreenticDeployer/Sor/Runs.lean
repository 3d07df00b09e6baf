import GreenticDeployer.Engine.Lifecycle
import GreenticDeployer.Sor.Coverage

/-!
# Runs of declaring and deploying

Between two deploys the manifest may declare other units and the operator may
stage or remove inputs; each deploy names its own namespace and may be cut off.
-/

set_option maxHeartbeats 200000

namespace GreenticDeployer.Sor

open Spec Lib
open Local (Turn)

/-- `declare` is the manifest's check and its `set-sor-units` step; `stage` is
`op secrets put` and `op secrets delete`; `deploy` makes as many calls as it has
turns. -/
inductive SorAction
  | declare (units : List SorUnit)
  | stage (rel : String) (value : Option String)
  | deploy (settings : Settings) (turns : List Turn)

section Runs

variable (formats : Formats) (envId : EnvId)

def setSorUnits (units : List SorUnit) (world : World) : World :=
  match validateSorUnits formats units with
  | .ok _ => { world with units := units }
  | .error _ => world

def World.act (world : World) : SorAction → World
  | .declare units => setSorUnits formats units world
  | .stage rel value => world.stored (devStoreKey envId rel) value
  | .deploy settings turns => (deploy formats settings).run.cut access world turns

/-- One environment; nobody but a deploy writes its route documents. -/
def SorAction.permitted : SorAction → Prop
  | declare _ => True
  | stage rel _ => NotRoute rel
  | deploy settings _ => settings.env.environmentId = envId

def sorRuns : Lib.System World SorAction where
  step := World.act formats envId
  allowed := fun _ action => action.permitted envId

/-- No unit was ever declared or deployed. -/
structure Fresh (world : World) : Prop where
  units : world.units = []
  ledger : world.ledger = []
  objects : ∀ ref object, world.objects ref = some object → object.sorUnit = none
  routes : ∀ sor, world.secrets (devStoreKey envId (routeRelPath sor)) = none

/-- Covered, with inputs that are no route documents. -/
structure Accounted (world : World) : Prop where
  covered : Covered envId world
  plain : ∀ rel, IsInput world rel → NotRoute rel

variable {formats} {envId} {world : World}

theorem Fresh.accounted (fresh : Fresh envId world) : Accounted envId world := by
  refine ⟨⟨?_, ?_⟩, ?_⟩
  · intro ref object unitId found label
    rw [fresh.objects ref object found] at label
    cases label
  · intro s present
    exact absurd (fresh.routes s) present
  · rintro rel (⟨unit, declared, -⟩ | ⟨entry, member, -⟩)
    · rw [fresh.units] at declared
      cases declared
    · rw [fresh.ledger] at member
      cases member

theorem Accounted.declare (accounted : Accounted envId world) (units : List SorUnit) :
    Accounted envId (setSorUnits formats units world) := by
  unfold setSorUnits
  split
  · next valid =>
      refine ⟨⟨accounted.covered.objects, accounted.covered.routes⟩, ?_⟩
      rintro rel (⟨unit, declared, listed⟩ | recorded)
      · exact validateSorUnits_notRoute valid unit declared rel listed
      · exact accounted.plain rel (.inr recorded)
  · exact accounted

theorem Accounted.stage (accounted : Accounted envId world) {rel : String} (plain : NotRoute rel)
    (value : Option String) : Accounted envId (world.stored (devStoreKey envId rel) value) := by
  refine ⟨⟨accounted.covered.objects, fun s present => ?_⟩, accounted.plain⟩
  have apart : devStoreKey envId (routeRelPath s) ≠ devStoreKey envId rel :=
    fun keys => plain s (devStoreKey_injective keys).symm
  rw [World.stored_of_ne world apart] at present
  exact accounted.covered.routes s present

theorem Accounted.deploy (formats : Formats) (accounted : Accounted envId world) {settings : Settings}
    (own : settings.env.environmentId = envId) (turns : List Turn) :
    Sound settings world ((Sor.deploy formats settings).run.cut access world turns) := by
  have covered : Covered settings.env.environmentId world := own ▸ accounted.covered
  exact (deploy_carefully covered).cut (.start covered) turns

theorem Sound.accounted {settings : Settings} {after : World} (sound : Sound settings world after)
    (accounted : Accounted settings.env.environmentId world) :
    Accounted settings.env.environmentId after := by
  obtain ⟨ledger, underway, inputs, -⟩ := sound
  refine ⟨underway.covered, fun rel input => accounted.plain rel ?_⟩
  rcases input with ⟨unit, declared, listed⟩ | ⟨entry, member, listed⟩
  · rw [underway.units] at declared
    exact .inl ⟨unit, declared, listed⟩
  · rw [underway.ledger] at member
    exact inputs entry member rel listed

theorem sorRuns_accounted (world : World) (action : SorAction)
    (permitted : (sorRuns formats envId).allowed world action) (accounted : Accounted envId world) :
    Accounted envId ((sorRuns formats envId).step world action) := by
  cases action with
  | declare units => exact accounted.declare units
  | stage rel value => exact accounted.stage permitted value
  | deploy settings turns =>
      have own : settings.env.environmentId = envId := permitted
      have sound := accounted.deploy formats own turns
      rw [← own] at accounted ⊢
      exact sound.accounted accounted

/-- An input outlives the deploy where no entry of its own unit records it, or a
declared unit reads it. -/
def InputsOutlive (settings : Settings) (before after : World) : Prop :=
  ∀ rel, IsInput before rel → ¬ Deletable before.units before.ledger rel →
    after.secrets (devStoreKey settings.env.environmentId rel) =
      before.secrets (devStoreKey settings.env.environmentId rel)

end Runs

/-- In every state of every run the ledger covers the cluster's SoR objects and
the store's route documents. A deploy from any state reached keeps the inputs it
may not delete, takes none off the record before it has settled, and where it
succeeds leaves nothing but what is declared. -/
theorem ledger_covers_cluster (formats : Formats) (envId : EnvId) {start : World}
    (fresh : Fresh envId start) (actions : List SorAction)
    (admits : (sorRuns formats envId).Admits start actions) :
    (∀ visited ∈ (sorRuns formats envId).states start actions, Covered envId visited) ∧
      ∀ (settings : Settings) (turns : List Turn), settings.env.environmentId = envId →
        let before := (sorRuns formats envId).run start actions
        let after := (sorRuns formats envId).step before (.deploy settings turns)
        InputsOutlive settings before after ∧ RecordsKept settings before after ∧
          ((deploy formats settings).run.outcome access before turns = some (.ok ⟨⟩) →
            SettledBy settings before after) := by
  have accounted : ∀ visited ∈ (sorRuns formats envId).states start actions,
      Accounted envId visited :=
    (sorRuns formats envId).invariant _ sorRuns_accounted start actions admits fresh.accounted
  refine ⟨fun visited member => (accounted visited member).covered, ?_⟩
  intro settings turns own before after
  have reached := accounted before ((sorRuns formats envId).run_mem_states start actions)
  obtain ⟨ledger, underway, -, recordsKept⟩ := reached.deploy formats own turns
  refine ⟨fun rel input staying => ?_, recordsKept, fun succeeded => ?_⟩
  · exact underway.kept rel (reached.plain rel input) staying
  · have covered : Covered settings.env.environmentId before := own ▸ reached.covered
    exact (deploy_carefully covered).outcome (.start covered) turns succeeded

def answersText : String := "\x7b\"tenant\":\x7b\"tenant_id\":\"acme\"\x7d\x7d"

def demoFormats : Formats where
  normalizeTeam := fun team => if team = "_" then none else some team
  canonicalSecretName := id
  answersTenant := fun text => if text = answersText then some "acme" else none
  routeText := fun url token tenant =>
    "\x7b\"tenant\":\"" ++ tenant ++ "\",\"token\":\"" ++ token ++ "\",\"url\":\"" ++ url ++ "\"\x7d"

def landlord : SorUnit where
  unitId := "landlord"
  sor := "landlord-tenant-sor"
  packRef := "oci://reg.example/greentic/sor-landlord:t1@sha256:" ++
    String.ofList (List.replicate 64 'a')
  image := "ghcr.io/greenticai/greentic-sorx:0.2"
  tenantId := "acme"
  answersRef := "default/_/sor-landlord/answers"
  postgresUrlRef := "default/_/sor-landlord/postgres_url"
  postgresCaRef := none
  sharedSecretRef := "default/_/sor-landlord/shared_secret"

/-- Another unit, reading the inputs of the first. -/
def tenants : SorUnit := { landlord with unitId := "tenants", sor := "tenants-sor" }

def localSettings : Settings where
  env := Engine.localFresh
  answers := some ⟨"gtc-local", none, none, none, none, .devStore⟩
  backend := .devStore
  manageNamespace := true
  waitForRollout := true
  devSecretsPathOverride := none

def emptyWorld : World := ⟨[], [], fun _ => none, fun _ => none⟩

theorem emptyWorld_fresh : Fresh ⟨"local"⟩ emptyWorld := ⟨rfl, rfl, nofun, fun _ => rfl⟩

def stageLandlord : List SorAction :=
  [.stage landlord.answersRef (some answersText), .stage landlord.postgresUrlRef (some "postgres://x"),
    .stage landlord.sharedSecretRef (some "s")]

def unfailing : List Turn := List.replicate 80 .done

def localDeploy : SorAction := .deploy localSettings unfailing

/-- The units are declared, with the landlord's inputs staged. -/
def declared (units : List SorUnit) : World :=
  (sorRuns demoFormats ⟨"local"⟩).run emptyWorld (stageLandlord ++ [.declare units])

def deployed (before : World) : World :=
  (sorRuns demoFormats ⟨"local"⟩).step before localDeploy

def redeclared (first second : List SorUnit) : World :=
  (sorRuns demoFormats ⟨"local"⟩).run (declared first) [localDeploy, .declare second]

theorem landlord_notRoute : ∀ rel ∈ landlord.inputRefs, NotRoute rel := by
  have categories : ∀ rel ∈ landlord.inputRefs, (segments rel)[2]? ≠ some "sorla" := by
    decide
  exact fun rel member => notRoute_of_category (categories rel member)

/-- The landlord's first deploy, with its inputs staged. -/
theorem ledger_covers_landlord :
    (∀ visited ∈ (sorRuns demoFormats ⟨"local"⟩).states emptyWorld
        (stageLandlord ++ [.declare [landlord]]), Covered ⟨"local"⟩ visited) ∧
    SettledBy localSettings (declared [landlord]) (deployed (declared [landlord])) := by
  have admits : (sorRuns demoFormats ⟨"local"⟩).Admits emptyWorld
      (stageLandlord ++ [.declare [landlord]]) :=
    ⟨landlord_notRoute _ (by decide), landlord_notRoute _ (by decide),
      landlord_notRoute _ (by decide), trivial, trivial⟩
  have covers := ledger_covers_cluster demoFormats ⟨"local"⟩ emptyWorld_fresh _ admits
  have succeeds : (deploy demoFormats localSettings).run.outcome access (declared [landlord])
      unfailing = some (.ok ⟨⟩) := by decide +kernel
  exact ⟨covers.1, (covers.2 localSettings unfailing rfl).2.2 succeeds⟩

/-- A retired unit's own input stays where a declared unit reads it; and an input
goes although it lies outside the segment of a unit that reads it, where it is
another unit's own. -/
theorem inputs_of_two_units :
    ((deploy demoFormats localSettings).run.outcome access (redeclared [landlord] [tenants])
        unfailing = some (.ok ⟨⟩) ∧
      Records (redeclared [landlord] [tenants]).ledger "landlord" landlord.answersRef ∧
      isOwnedBy "landlord" landlord.answersRef = true ∧
      (∀ unit ∈ (redeclared [landlord] [tenants]).units, unit.unitId ≠ "landlord") ∧
      (deployed (redeclared [landlord] [tenants])).secrets
        (devStoreKey ⟨"local"⟩ landlord.answersRef) ≠ none) ∧
    Records (redeclared [landlord, tenants] []).ledger "tenants" tenants.answersRef ∧
      isOwnedBy "tenants" tenants.answersRef = false ∧
      (redeclared [landlord, tenants] []).secrets (devStoreKey ⟨"local"⟩ tenants.answersRef) ≠ none ∧
      (deployed (redeclared [landlord, tenants] [])).secrets
        (devStoreKey ⟨"local"⟩ tenants.answersRef) = none := by
  unfold Records
  decide +kernel

end GreenticDeployer.Sor
