import GreenticDeployer.Credentials.Flows
import GreenticDeployer.Engine.Lifecycle
import Mathlib.Data.List.TakeWhile

/-!
# What a staged seed holds

Every key the credential sink wrote is reserved or stands at the environment's
reference, in every state of every run. The puts keep out of the reserved keys, so
what they stored is lost to a seed only where the reference points at it.
-/

set_option maxHeartbeats 200000

namespace GreenticDeployer.Credentials

open Spec Lib Sor Program

variable {site : Site} {dir : EnvDir}

theorem stored_at (dir : EnvDir) (path : PathBuf) (uri : SecretUri) (secret : StoredSecret) :
    (dir.stored path uri secret).files path =
      some (Function.update ((dir.files path).getD DevStore.empty) uri (some secret)) :=
  Function.update_self path _ dir.files

theorem stored_elsewhere {path other : PathBuf} (apart : other ≠ path) (uri : SecretUri)
    (secret : StoredSecret) : (dir.stored path uri secret).files other = dir.files other :=
  Function.update_of_ne apart _ dir.files

def EnvDir.secretAt (dir : EnvDir) (path : PathBuf) (key : SecretUri) : Option StoredSecret :=
  (dir.files path).bind fun store => store key

theorem secretAt_stored (dir : EnvDir) (path : PathBuf) (uri : SecretUri) (secret : StoredSecret) :
    (dir.stored path uri secret).secretAt path uri = some secret := by
  simp only [EnvDir.secretAt, stored_at, Option.bind_some, Function.update_self]

theorem secretAt_stored_other {path other : PathBuf} {uri key : SecretUri} (secret : StoredSecret)
    (apart : (other, key) ≠ (path, uri)) :
    (dir.stored path uri secret).secretAt other key = dir.secretAt other key := by
  simp only [EnvDir.secretAt]
  by_cases same : other = path
  · subst same
    have keys : key ≠ uri := fun equal => apart (by rw [equal])
    rw [stored_at, Option.bind_some, Function.update_of_ne keys]
    cases dir.files other <;> rfl
  · rw [stored_elsewhere same]

theorem valid_not_reserved {formats : Formats} {rel : String}
    (valid : validateDevStoreSecretPath formats rel = .ok ()) : isReservedRelPath rel = false := by
  unfold validateDevStoreSecretPath at valid
  split at valid
  · split at valid
    · cases valid
    split at valid
    · cases valid
    split at valid
    · cases valid
    split at valid
    · cases valid
    · next notReserved => exact Bool.eq_false_iff.mpr notReserved
  · cases valid

theorem relPath_devStoreKey (envId : EnvId) (rel : String) :
    (devStoreKey envId rel).relPath = rel := by
  unfold devStoreKey
  split <;> rfl

theorem checked_ok {target result : PutTarget} (passed : target.checked = .ok result) :
    result = target := by
  cases target with
  | devStore path uri =>
      obtain ⟨_, _, same⟩ := bind_ok passed
      exact (Except.ok.inj same).symm
  | vault uri => exact (Except.ok.inj passed).symm

theorem put_not_reserved {run : Put} {path : PathBuf} {uri : SecretUri}
    (landed : site.put run = .ok (.devStore path uri)) : isReservedRelPath uri.relPath = false := by
  unfold Site.put at landed
  obtain ⟨secrets, _, landed⟩ := bind_ok landed
  obtain ⟨_, _, landed⟩ := bind_ok landed
  obtain ⟨_, _, landed⟩ := bind_ok landed
  unfold Site.putEnvSecret at landed
  obtain ⟨_, _, landed⟩ := bind_ok landed
  obtain ⟨_, valid, landed⟩ := bind_ok landed
  have notReserved := valid_not_reserved (mapError_ok valid)
  have target := checked_ok landed
  split at target
  · cases target
    rw [relPath_devStoreKey]
    exact notReserved
  · cases target

def Stripped (site : Site) (bound : Option SecretRef) (key : SecretUri) : Prop :=
  Names (reservedUris site.lib site.envId.asStr) key ∨ AtRef site.lib bound key

/-- Every key the credential sink wrote is stripped. Every key a put stored is free of
the reserved ones and still there, unless the reference points at it. -/
structure Sealed (site : Site) (dir : EnvDir) : Prop where
  covered : ∀ path key secret, dir.secretAt path key = some secret →
    secret.writer = .credentialSink → Stripped site dir.environment.credentialsRef key
  free : ∀ entry ∈ dir.puts, isReservedRelPath entry.2.relPath = false
  kept : ∀ entry ∈ dir.puts, ∃ secret, dir.secretAt entry.1 entry.2 = some secret ∧
    (secret.writer = .runtimePut ∨ AtRef site.lib dir.environment.credentialsRef entry.2)

theorem Stripped.at_ref {bound : Option SecretRef} {key : SecretUri}
    (documented : site.lib.Documented site.envId.asStr) (stripped : Stripped site bound key)
    (free : isReservedRelPath key.relPath = false) : AtRef site.lib bound key := by
  rcases stripped with reserved | pointed
  · have named := reserved_of_names documented reserved
    rw [free] at named
    cases named
  · exact pointed

theorem sealed_sink (documented : site.lib.Documented site.envId.asStr) (held : Sealed site dir)
    (path : PathBuf) {uri : SecretUri} (value : String)
    (stripped : Stripped site dir.environment.credentialsRef uri) :
    Sealed site (dir.stored path uri ⟨value, .credentialSink⟩) where
  covered := by
    intro other key secret found sink
    by_cases same : (other, key) = (path, uri)
    · cases same
      exact stripped
    · rw [secretAt_stored_other _ same] at found
      exact held.covered other key secret found sink
  free := held.free
  kept := by
    intro entry member
    by_cases same : entry = (path, uri)
    · subst same
      have free : isReservedRelPath uri.relPath = false := held.free (path, uri) member
      have pointed := stripped.at_ref documented free
      exact ⟨_, secretAt_stored dir path uri _, .inr pointed⟩
    · rw [secretAt_stored_other _ same]
      exact held.kept entry member

theorem sealed_land (held : Sealed site dir) (run : Put) : Sealed site (site.land dir run) := by
  unfold Site.land
  split
  · next path uri landed =>
      refine ⟨?_, ?_, ?_⟩
      · intro other key secret found sink
        by_cases same : (other, key) = (path, uri)
        · cases same
          cases (secretAt_stored dir path uri _).symm.trans found
          cases sink
        · exact held.covered other key secret ((secretAt_stored_other _ same).symm.trans found) sink
      · intro entry member
        rcases List.mem_cons.mp member with rfl | old
        · exact put_not_reserved landed
        · exact held.free entry old
      · intro entry member
        by_cases same : entry = (path, uri)
        · subst same
          exact ⟨_, secretAt_stored dir path uri _, .inl rfl⟩
        · have old := List.mem_of_ne_of_mem same member
          obtain ⟨secret, found, fine⟩ := held.kept entry old
          exact ⟨secret, (secretAt_stored_other _ same).trans found, fine⟩
  · exact held
  · exact held

/-- Other documents with the same reference. -/
theorem sealed_edit (held : Sealed site dir) {environment : Environment}
    (same : environment.credentialsRef = dir.environment.credentialsRef) (units : List SorUnit)
    (ledger : List AppliedSorUnit) :
    Sealed site { dir with environment, sorUnits := units, sorLedger := ledger } := by
  refine ⟨?_, held.free, ?_⟩
  · rw [same]
    exact held.covered
  · rw [same]
    exact held.kept

/-- A first reference strips more than none. -/
theorem sealed_bind (held : Sealed site dir) (unbound : dir.environment.credentialsRef = none)
    (environment : Environment) : Sealed site { dir with environment } := by
  have nowhere : ∀ key, ¬ AtRef site.lib dir.environment.credentialsRef key := by
    intro key ⟨uri, pointed, _⟩
    rw [unbound] at pointed
    cases pointed
  refine ⟨?_, held.free, ?_⟩
  · intro path key secret found sink
    rcases held.covered path key secret found sink with reserved | pointed
    · exact .inl reserved
    · exact absurd pointed (nowhere key)
  · intro entry member
    obtain ⟨secret, found, put | pointed⟩ := held.kept entry member
    · exact ⟨secret, found, .inl put⟩
    · exact absurd pointed (nowhere entry.2)

/-- What the puts of others leave: the documents, and what puts stored before. -/
structure Later (before after : EnvDir) : Prop where
  environment : after.environment = before.environment
  sorUnits : after.sorUnits = before.sorUnits
  sorLedger : after.sorLedger = before.sorLedger
  puts : before.puts ⊆ after.puts

theorem Later.refl (dir : EnvDir) : Later dir dir := ⟨rfl, rfl, rfl, List.Subset.refl _⟩

theorem Later.trans {first second third : EnvDir} (left : Later first second)
    (right : Later second third) : Later first third where
  environment := right.environment.trans left.environment
  sorUnits := right.sorUnits.trans left.sorUnits
  sorLedger := right.sorLedger.trans left.sorLedger
  puts := List.Subset.trans left.puts right.puts

theorem later_land (site : Site) (dir : EnvDir) (run : Put) : Later dir (site.land dir run) := by
  unfold Site.land
  split
  · exact ⟨rfl, rfl, rfl, List.subset_cons_self _ _⟩
  · exact .refl dir
  · exact .refl dir

theorem later_landings (site : Site) (dir : EnvDir) (runs : List Put) :
    Later dir (runs.foldl site.land dir) := by
  induction runs generalizing dir with
  | nil => exact .refl dir
  | cons run rest ih => exact (later_land site dir run).trans (ih _)

theorem sealed_landings (held : Sealed site dir) (runs : List Put) :
    Sealed site (runs.foldl site.land dir) := by
  induction runs generalizing dir with
  | nil => exact held
  | cons run rest ih => exact ih (sealed_land held run)

/-- The flow keeps the invariant wherever it is cut, and ends as said where it succeeds. -/
def Attends {α : Type} (site : Site) (post : α → EnvDir → Prop) (flow : Flow α) (dir : EnvDir) :
    Prop :=
  Careful site.exec (fun _ _ => True) (Sealed site) post flow dir

section Rules

variable {α β : Type} {post : β → EnvDir → Prop} {f : α → Flow β}

theorem attends_read {call : Call} {sort : call.Reply → Except FlowError α}
    (harmless : ∀ input dir, (site.perform input dir call).2 = dir)
    (rest : ∀ value next, Later dir next →
      (∃ input, sort (site.perform input next call).1 = .ok value) →
      Attends site post (f value) next) :
    Attends site post (Program.ask call sort >>= f) dir := by
  have read : Attends site (fun value next => Later dir next ∧
      ∃ input, sort (site.perform input next call).1 = .ok value) (Program.ask call sort) dir := by
    refine Careful.ask (fun _ => trivial) ?_ ?_
    · intro input held
      simp only [Site.exec, harmless]
      exact sealed_landings held input.meanwhile
    · intro input value held replied
      simp only [Site.exec, harmless]
      exact ⟨later_landings site dir input.meanwhile, input, replied⟩
  exact read.andThen _ fun value next ended => rest value next ended.1 ended.2

end Rules

theorem orError_ok {α : Type} {error : FlowError} {outcome : Option α} {value : α}
    (passed : orError error outcome = .ok value) : outcome = some value := by
  cases outcome with
  | none => cases passed
  | some found => exact congrArg some (Except.ok.inj passed)

theorem reply_some {α : Type} {fault : Fault} {value result : α}
    (replied : fault.reply value = some result) : result = value := by
  unfold Fault.reply at replied
  split at replied
  · exact (Option.some.inj replied).symm
  · cases replied

theorem loaded {error : FlowError} {env : Environment}
    (answered : ∃ input, orError error (site.perform input dir .load).1 = .ok env) :
    env = dir.environment ∧ env.environmentId = site.envId := by
  obtain ⟨input, answered⟩ := answered
  have replied := orError_ok answered
  simp only [Site.perform] at replied
  split at replied
  · next named =>
      have same := reply_some replied
      exact ⟨same, same ▸ named⟩
  · cases replied

theorem write_cases (fault : Fault) (before after : EnvDir) :
    (fault.write before after).2 = before ∨ (fault.write before after).2 = after := by
  unfold Fault.write
  split
  · exact .inl rfl
  · exact .inr rfl

theorem attends_sink (documented : site.lib.Documented site.envId.asStr) {bound : SecretRef}
    {material : String} (stripped : ∀ uri, site.lib.toStoreUri bound = some uri →
      Stripped site dir.environment.credentialsRef uri) :
    Attends site (fun _ next => next.environment = dir.environment)
      (Program.ask (.secretSink bound material) (orError .secretWrite)) dir := by
  have ended : ∀ input : Input, Sealed site dir →
      Sealed site (site.exec input dir (.secretSink bound material)).2 ∧
        (site.exec input dir (.secretSink bound material)).2.environment = dir.environment := by
    intro input held
    have before := sealed_landings held input.meanwhile
    have same := (later_landings site dir input.meanwhile).environment
    simp only [Site.exec, Site.perform, Site.putCredentialMaterial]
    cases lands : site.lib.toStoreUri bound with
    | none => exact ⟨before, same⟩
    | some uri =>
        have after := sealed_sink documented before
          (site.resolveDevStorePath (input.meanwhile.foldl site.land dir).files input.overridePath)
          material (same ▸ stripped uri lands)
        simp only [Option.map_some]
        rcases write_cases input.fault (input.meanwhile.foldl site.land dir) _ with kept | wrote
        · rw [kept]
          exact ⟨before, same⟩
        · rw [wrote]
          exact ⟨after, same⟩
  exact Careful.ask (fun _ => trivial) (fun input held => (ended input held).1)
    fun input _ held _ => (ended input held).2

theorem attends_persistMaterial (documented : site.lib.Documented site.envId.asStr)
    {kind : PackDescriptor} {creds : Handler} {outcome : BootstrapOutcome}
    (covered : site.checkLanding kind creds outcome.boundCredentialsRef = .ok ()) :
    Attends site (fun _ next => next.environment = dir.environment) (persistMaterial outcome)
      dir := by
  unfold persistMaterial
  split
  · next bound material named minted =>
      apply attends_sink documented
      intro uri lands
      rw [named] at covered
      exact .inl (names_of_landing documented (mapError_ok covered) lands)
  · exact Careful.pure fun _ => rfl

theorem attends_persistRef {env : Environment} (unbound : dir.environment.credentialsRef = none)
    (bound : Option SecretRef) : Attends site (fun _ _ => True) (persistRef env bound) dir := by
  unfold persistRef
  split
  · next bound =>
      refine Careful.ask (fun _ => trivial) ?_ fun _ _ _ _ => trivial
      intro input held
      have before := sealed_landings held input.meanwhile
      have same := (later_landings site dir input.meanwhile).environment
      simp only [Site.exec, Site.perform]
      rcases write_cases input.fault (input.meanwhile.foldl site.land dir) _ with kept | wrote
      · rw [kept]
        exact before
      · rw [wrote]
        exact sealed_bind before (same ▸ unbound) _
  · exact Careful.pure fun _ => trivial

theorem runBootstrap_attends (documented : site.lib.Documented site.envId.asStr)
    (credsOverride : Option Handler) (dir : EnvDir) :
    Attends site (fun _ _ => True) (site.runBootstrap credsOverride) dir := by
  refine attends_read (fun _ _ => rfl) fun env loadedAt _ answered => ?_
  have current := (loaded answered).1
  refine Careful.checks fun deployer _ => ?_
  refine Careful.checks fun _ passed => ?_
  have unbound := ensure_ok passed
  refine attends_read (fun _ _ => rfl) fun registered resolvedAt resolved _ => ?_
  refine Careful.checks fun creds _ => ?_
  refine attends_read (fun _ _ => rfl) fun outcome mintedAt minted _ => ?_
  refine attends_read (fun _ _ => rfl) fun consumedAt timedAt timed _ => ?_
  refine attends_read (fun _ _ => rfl) fun rulesPackRef wroteAt wrote _ => ?_
  refine Careful.checks fun _ covered => ?_
  refine Careful.checks fun docRef _ => ?_
  have same : wroteAt.environment = env := by
    rw [current, wrote.environment, timed.environment, minted.environment, resolved.environment]
  refine (attends_persistMaterial documented covered).andThen _ fun _ sankAt kept => ?_
  refine (attends_persistRef (kept ▸ same ▸ unbound) _).andThen _ fun _ _ _ => ?_
  exact Careful.pure fun _ => trivial

theorem runRotate_attends (documented : site.lib.Documented site.envId.asStr) (dir : EnvDir) :
    Attends site (fun _ _ => True) site.runRotate dir := by
  refine attends_read (fun _ _ => rfl) fun env loadedAt _ answered => ?_
  have current := (loaded answered).1
  refine Careful.checks fun deployer _ => ?_
  refine Careful.checks fun activeRef active => ?_
  refine attends_read (fun _ _ => rfl) fun _ resolvedAt resolved _ => ?_
  refine attends_read (fun _ _ => rfl) fun outcome mintedAt minted _ => ?_
  refine Careful.checks fun material _ => ?_
  have same : mintedAt.environment = env := by
    rw [current, minted.environment, resolved.environment]
  have stripped : ∀ uri, site.lib.toStoreUri activeRef = some uri →
      Stripped site mintedAt.environment.credentialsRef uri := by
    intro uri lands
    refine .inr ⟨uri, ?_, rfl⟩
    rw [same, orError_ok active]
    exact lands
  refine (attends_sink documented stripped).andThen _ fun _ sankAt _ => ?_
  cases expires : outcome.boundExpiry with
  | none => exact Careful.pure fun _ => trivial
  | some expiresAt =>
      exact attends_read (fun _ _ => rfl) fun _ _ _ _ => Careful.pure fun _ => trivial

/-- What a seed must and must not hold of the store it is staged from. -/
structure Faithful (site : Site) (dir : EnvDir) (src : PathBuf) (seed : DevStore) : Prop where
  noCredential : ∀ key secret, seed key = some secret → secret.writer ≠ .credentialSink
  everyPut : ∀ key, (src, key) ∈ dir.puts →
    ¬ Names (sorInputUris site.envId dir.sorUnits dir.sorLedger) key →
    ¬ AtRef site.lib dir.environment.credentialsRef key →
    ∃ secret, seed key = some secret ∧ secret.writer = .runtimePut

theorem faithful_copy (documented : site.lib.Documented site.envId.asStr) {before : EnvDir}
    (later : Later before dir) (held : Sealed site dir)
    (named : dir.environment.environmentId = site.envId) {src : PathBuf} {store : DevStore}
    (found : dir.files src = some store) :
    Faithful site before src (copyExcluding store (stagingExcludedUris site.lib dir.environment ++
      sorInputUris site.envId dir.sorUnits dir.sorLedger)) := by
  have strips : ∀ key, Names (stagingExcludedUris site.lib dir.environment) key ↔
      Stripped site dir.environment.credentialsRef key := by
    intro key
    rw [names_stagingExcludedUris, named]
    rfl
  have reads : ∀ key, dir.secretAt src key = store key := by
    intro key
    simp only [EnvDir.secretAt, found, Option.bind_some]
  refine ⟨?_, ?_⟩
  · intro key secret kept sink
    unfold copyExcluding at kept
    split at kept
    · cases kept
    · next unnamed =>
        have stripped := held.covered src key secret ((reads key).trans kept) sink
        exact unnamed (names_append.mpr (.inl ((strips key).mpr stripped)))
  · intro key put noInput noRef
    have member := later.puts put
    have free : isReservedRelPath key.relPath = false := held.free (src, key) member
    rw [← later.sorUnits, ← later.sorLedger] at noInput
    rw [← later.environment] at noRef
    have unnamed : ¬ Names (stagingExcludedUris site.lib dir.environment ++
        sorInputUris site.envId dir.sorUnits dir.sorLedger) key := by
      intro either
      rcases names_append.mp either with excluded | input
      · exact noRef (((strips key).mp excluded).at_ref documented free)
      · exact noInput input
    obtain ⟨secret, stored, put | pointed⟩ := held.kept (src, key) member
    · refine ⟨secret, ?_, put⟩
      simp only [copyExcluding, if_neg unnamed]
      exact (reads key).symm.trans stored
    · exact absurd pointed noRef

/-- Where no store is found, no put has stored anything. -/
theorem faithful_empty {before : EnvDir} (later : Later before dir) (held : Sealed site dir)
    {src : PathBuf} (absent : dir.files src = none) : Faithful site before src DevStore.empty where
  noCredential := nofun
  everyPut := by
    intro key put
    obtain ⟨secret, stored, _⟩ := held.kept (src, key) (later.puts put)
    simp [EnvDir.secretAt, absent] at stored

theorem staging_attends (documented : site.lib.Documented site.envId.asStr) (src : PathBuf)
    (dir : EnvDir) :
    Attends site (fun staged _ => Faithful site dir src (staged.getD DevStore.empty))
      (site.readDevSecretsBytes src) dir := by
  refine attends_read (fun _ _ => rfl) fun env loadedAt atLoad answered => ?_
  obtain ⟨current, named⟩ := loaded answered
  refine attends_read (fun _ _ => rfl) fun units unitsAt atUnits readUnits => ?_
  refine attends_read (fun _ _ => rfl) fun ledger ledgerAt atLedger readLedger => ?_
  refine attends_read (fun _ _ => rfl) fun present existsAt atExists found => ?_
  have later := ((atLoad.trans atUnits).trans atLedger).trans atExists
  cases present with
  | false =>
      obtain ⟨_, replied⟩ := found
      have absent : (existsAt.files src).isSome = false := Except.ok.inj replied
      refine Careful.pure fun held => ?_
      have missing := Option.not_isSome_iff_eq_none.mp (Bool.eq_false_iff.mp absent)
      exact faithful_empty later held missing
  | true =>
      refine attends_read (fun _ _ => rfl) fun seed copiedAt atCopy copied => ?_
      refine Careful.pure fun held => ?_
      have whole := later.trans atCopy
      have sameEnv : env = copiedAt.environment := by
        rw [current, atCopy.environment, atExists.environment, atLedger.environment,
          atUnits.environment]
      have sameUnits : units = copiedAt.sorUnits := by
        obtain ⟨_, replied⟩ := readUnits
        rw [reply_some (orError_ok replied), atCopy.sorUnits, atExists.sorUnits, atLedger.sorUnits]
      have sameLedger : ledger = copiedAt.sorLedger := by
        obtain ⟨_, replied⟩ := readLedger
        rw [reply_some (orError_ok replied), atCopy.sorLedger, atExists.sorLedger]
      obtain ⟨input, replied⟩ := copied
      obtain ⟨store, present, kept⟩ := Option.bind_eq_some_iff.mp (orError_ok replied)
      rw [Option.getD_some, reply_some kept, sameEnv, sameUnits, sameLedger]
      exact faithful_copy documented whole held (sameEnv ▸ named) present

/-- No credential is stored yet, and no put is remembered. -/
structure EnvDir.Fresh (dir : EnvDir) : Prop where
  noCredential : ∀ path key secret, dir.secretAt path key = some secret →
    secret.writer ≠ .credentialSink
  noPuts : dir.puts = []

theorem sealed_fresh (fresh : dir.Fresh) : Sealed site dir where
  covered := fun path key secret found sink =>
    absurd sink (fresh.noCredential path key secret found)
  free := by simp [fresh.noPuts]
  kept := by simp [fresh.noPuts]

theorem sealed_step (documented : site.lib.Documented site.envId.asStr) (turn : Turn)
    (keeps : turn.Keeps dir) (held : Sealed site dir) : Sealed site (site.step dir turn) := by
  cases turn with
  | bootstrap credsOverride schedule =>
      exact (runBootstrap_attends documented credsOverride dir).cut held schedule
  | rotate schedule => exact (runRotate_attends documented dir).cut held schedule
  | stage src schedule => exact (staging_attends documented src dir).cut held schedule
  | put run => exact sealed_land held run
  | edit environment units ledger => exact sealed_edit held keeps units ledger

theorem sealed_run (documented : site.lib.Documented site.envId.asStr) {start : EnvDir}
    (fresh : start.Fresh) (turns : List Turn) (admits : site.system.Admits start turns) :
    Sealed site (site.system.run start turns) :=
  site.system.run_invariant (Sealed site)
    (fun _ turn keeps held => sealed_step documented turn keeps held) start turns admits
    (sealed_fresh fresh)

/-- In every run of bootstraps, rotations, stagings and puts that keeps the reference
otherwise, each cut off anywhere, a seed staged next holds no credential and every
runtime secret that a put stored in its file, the inputs of the units and what stands
at the reference apart. The file may have been resolved earlier in the run. -/
theorem staged_seeds_faithful (site : Site) (documented : site.lib.Documented site.envId.asStr)
    (start : EnvDir) (fresh : start.Fresh) (earlier later : List Turn)
    (admits : site.system.Admits start (earlier ++ later)) (schedule : List Input)
    (staged : Option DevStore)
    (returned : (site.readDevSecretsBytes
        (site.stagedDevStorePath (site.system.run start earlier).files)).run.outcome site.exec
      (site.system.run start (earlier ++ later)) schedule = some (.ok staged)) :
    Faithful site (site.system.run start (earlier ++ later))
      (site.stagedDevStorePath (site.system.run start earlier).files)
      (staged.getD DevStore.empty) := by
  have held := sealed_run documented fresh (earlier ++ later) admits
  exact (staging_attends documented _ _).outcome held schedule returned

def sampleFormats : Formats where
  normalizeTeam := fun team => if team = "_" ∨ team = "default" then none else some team
  canonicalSecretName := id
  answersTenant := fun _ => none
  routeText := fun url _ _ => url

def sampleScheme : List Char := "secret://local/".toList

/-- References of the environment `local` whose team is canonical. -/
def sampleStoreUri (bound : SecretRef) : Option SecretUri :=
  let rel := String.ofList (bound.asStr.toList.drop sampleScheme.length)
  match segments rel with
  | [tenant, team, pack, name] =>
    if sampleScheme.isPrefixOf bound.asStr.toList = true ∧ tenant ≠ "" ∧ team ≠ "" ∧
        team ≠ "default" ∧ pack ≠ "" ∧ name.toList.takeWhile (· ≠ '@') ≠ [] then
      some ⟨"local", rel⟩
    else none
  | _ => none

def sampleLib : SecretsLib := ⟨sampleFormats, fun text => some ⟨text⟩, sampleStoreUri⟩

theorem toList_secretText (path : String) :
    (secretText "local" path).toList = sampleScheme ++ path.toList := by
  simp only [secretText, String.toList_append]
  rfl

theorem rel_of_secretText (path : String) :
    String.ofList ((secretText "local" path).toList.drop sampleScheme.length) = path := by
  rw [toList_secretText, List.drop_left, String.ofList_toList]

theorem sampleLib_documented : sampleLib.Documented "local" where
  aligned := by
    intro bound uri path lands _ samePath
    simp only [sampleLib, sampleStoreUri] at lands
    split at lands
    · next tenant team pack name parts =>
        split at lands
        · next fine =>
            cases lands
            have scheme : sampleScheme.isPrefixOf (secretText "local" path).toList = true := by
              rw [toList_secretText]
              exact List.isPrefixOf_iff_prefix.mpr (List.prefix_append _ _)
            have unversioned : segments path =
                [tenant, team, pack, String.ofList (name.toList.takeWhile (· ≠ '@'))] := by
              rw [samePath]
              simp [versionlessSegments, parts]
            simp only [sampleLib, sampleStoreUri, Option.bind_some, rel_of_secretText, unversioned,
              scheme, String.toList_ofList, List.takeWhile_idem]
            simp only [fine, ne_eq, not_false_eq_true, and_self, if_true, Option.isSome_some]
        · cases lands
    · cases lands
  verbatim := by
    intro path uri team lands
    simp only [sampleLib, sampleStoreUri, Option.bind_some, rel_of_secretText] at lands
    split at lands
    · split at lands
      · exact (Option.some.inj lands).symm
      · cases lands
    · cases lands

def sampleSite : Site := ⟨sampleLib, ⟨"local"⟩, "/envs/local"⟩

def deployerPack : EnvPackBinding :=
  ⟨.deployer, ⟨"greentic.deployer.k8s", "1.0.0"⟩, ⟨"deployer"⟩, none, 0, none⟩

def secretsPack : EnvPackBinding :=
  ⟨.secrets, ⟨devStoreKindPath, "1.0.0"⟩, ⟨"secrets"⟩, none, 0, none⟩

def bare : Environment := { Engine.localFresh with packs := [deployerPack, secretsPack] }

def sampleStore : PathBuf := "/envs/local/.greentic/dev/.dev.secrets.env"

/-- An environment with an empty dev store. -/
def sampleDir : EnvDir :=
  ⟨bare, [], [], fun path => if path = sampleStore then some DevStore.empty else none, []⟩

theorem sampleDir_fresh : sampleDir.Fresh where
  noCredential := by
    intro path key secret found
    simp only [EnvDir.secretAt, sampleDir] at found
    split at found <;> cases found
  noPuts := rfl

def deployerToken : SecretUri := ⟨"local", "default/_/k8s-deployer/deployer_token"⟩

def sampleInput : Input where
  meanwhile := []
  overridePath := none
  fault := .none
  registered := some ⟨some "default/_/k8s-deployer/deployer_token"⟩
  minted :=
    ⟨"rules", some ⟨"secret://local/default/_/k8s-deployer/deployer_token"⟩, none, some "token"⟩
  time := 0
  rotateAt := none

/-- A bootstrap cut between the material and the reference. -/
def orphaning : Turn := .bootstrap none (List.replicate 6 sampleInput)

def botToken : Put := ⟨bare, sampleStore, "default/_/messaging-telegram/bot_token", "bot"⟩

def stagesSeed (fine : DevStore → Bool) : Option (Except FlowError (Option DevStore)) → Bool
  | some (.ok (some seed)) => fine seed
  | _ => false

theorem seed_of_stages {fine : DevStore → Bool}
    {outcome : Option (Except FlowError (Option DevStore))}
    (stages : stagesSeed fine outcome = true) :
    ∃ seed, outcome = some (.ok (some seed)) ∧ fine seed = true := by
  unfold stagesSeed at stages
  split at stages
  · exact ⟨_, rfl, stages⟩
  · cases stages

def staging (dir : EnvDir) : Option (Except FlowError (Option DevStore)) :=
  (sampleSite.readDevSecretsBytes (sampleSite.stagedDevStorePath sampleDir.files)).run.outcome
    sampleSite.exec dir (List.replicate 5 sampleInput)

def orphaned : EnvDir := sampleSite.system.run sampleDir [orphaning, .put botToken]

/-- The orphan is in the store that the seed is staged from. -/
theorem orphan_not_staged :
    orphaned.secretAt sampleStore deployerToken = some ⟨"token", .credentialSink⟩ ∧
      ∃ seed, staging orphaned = some (.ok (some seed)) ∧
        Faithful sampleSite orphaned (sampleSite.stagedDevStorePath sampleDir.files) seed := by
  have ran : orphaned.secretAt sampleStore deployerToken = some ⟨"token", .credentialSink⟩ ∧
      stagesSeed (fun _ => true) (staging orphaned) = true ∧
      sampleSite.system.Admits sampleDir ([] ++ [orphaning, .put botToken]) := by decide +kernel
  obtain ⟨seed, returned, _⟩ := seed_of_stages ran.2.1
  exact ⟨ran.1, seed, returned, staged_seeds_faithful sampleSite sampleLib_documented sampleDir
    sampleDir_fresh [] _ ran.2.2 (List.replicate 5 sampleInput) (some seed) returned⟩

def putElsewhere : Turn := .put { botToken with storePath := "/tmp/secrets.env" }

def misplaced : EnvDir := sampleSite.system.run sampleDir [putElsewhere]

/-- A seed does not hold every runtime secret that was put: it ignores the override. -/
theorem override_not_staged :
    sampleSite.system.Admits sampleDir [putElsewhere] ∧ ∃ entry ∈ misplaced.puts,
      ¬ Names (sorInputUris sampleSite.envId misplaced.sorUnits misplaced.sorLedger) entry.2 ∧
      misplaced.environment.credentialsRef = none ∧
      ∃ seed, staging misplaced = some (.ok (some seed)) ∧ seed entry.2 = none := by
  have ran : misplaced.puts.head? = some ("/tmp/secrets.env", ⟨"local", botToken.path⟩) ∧
      (misplaced.sorUnits = [] ∧ misplaced.sorLedger = []) ∧
      misplaced.environment.credentialsRef = none ∧
      stagesSeed (fun seed => seed ⟨"local", botToken.path⟩ = none) (staging misplaced) = true := by
    decide +kernel
  have noInput : ¬ Names (sorInputUris sampleSite.envId misplaced.sorUnits misplaced.sorLedger)
      ⟨"local", botToken.path⟩ := by
    simp [ran.2.1.1, ran.2.1.2, sorInputUris, Names]
  obtain ⟨seed, returned, missing⟩ := seed_of_stages ran.2.2.2
  exact ⟨⟨trivial, trivial⟩, _, List.mem_of_mem_head? ran.1, noInput, ran.2.2.1, seed, returned,
    of_decide_eq_true missing⟩

end GreenticDeployer.Credentials
