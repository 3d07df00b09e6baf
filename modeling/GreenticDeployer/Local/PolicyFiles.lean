import GreenticDeployer.Engine.Accounts
import GreenticDeployer.Lib.Crash
import GreenticDeployer.Trust.PolicyPaths

/-!
# Revenue policies of the local store

A bundle verb writes a policy document, its signature and the environment one
after the other, each whole or not at all, and may stop or fail between them. The
version is counted from the saved environment, so what a failed attempt leaves is
never named by it, and is overwritten by the next.
-/

set_option maxHeartbeats 200000

namespace GreenticDeployer.Local

open Spec Engine Trust Lib

inductive PolicyFile
  | document (doc : RevenuePolicyDocument)
  | envelope (text : String)
  deriving DecidableEq

/-- The saved `environment.json` and the files below `billing-policies`. -/
structure PolicyDisk where
  env : Environment
  files : PathBuf → Option PolicyFile

inductive PolicyCall
  | load
  | createDir
  | write (path : PathBuf) (file : PolicyFile)
  | read (path : PathBuf)
  | save (env : Environment)

@[reducible] def PolicyCall.Reply : PolicyCall → Type
  | load => Option Environment
  | createDir => Option Unit
  | write _ _ => Option Unit
  | read _ => Option PolicyFile
  | save _ => Option Unit

/-- A call works, or it fails; a failed write may have taken effect, as when only
the directory's sync failed. -/
inductive Turn
  | done
  | failed (effective : Bool)

def Turn.reply : Turn → Option Unit
  | done => some ()
  | failed _ => none

def Turn.effective : Turn → Bool
  | done => true
  | failed effective => effective

def PolicyDisk.put (disk : PolicyDisk) (path : PathBuf) (file : PolicyFile) : PolicyDisk :=
  { disk with files := Function.update disk.files path (some file) }

def access (turn : Turn) (disk : PolicyDisk) : (call : PolicyCall) → call.Reply × PolicyDisk
  | .load => (turn.reply.map fun _ => disk.env, disk)
  | .createDir => (turn.reply, disk)
  | .write path file => (turn.reply, if turn.effective then disk.put path file else disk)
  | .read path => (turn.reply.bind fun _ => disk.files path, disk)
  | .save env => (turn.reply, if turn.effective then { disk with env := env } else disk)

inductive StoreError
  | io
  | bundle (error : BundleError)
  | operatorKey
  | trustRoot
  | policy (error : RevenuePolicyError)
  | corrupted (path : PathBuf)
  | sign (error : SigningError)
  deriving DecidableEq

abbrev Storing (α : Type) := Program.Fallible PolicyCall PolicyCall.Reply StoreError α

/-- One call, a failed one being an error. -/
def attempt (call : PolicyCall) {α : Type} (outcome : call.Reply → Option α) : Storing α :=
  Program.ask call fun reply =>
    match outcome reply with
    | some value => .ok value
    | none => .error .io

def check {ε α : Type} (wrap : ε → StoreError) (outcome : Except ε α) : Storing α :=
  Program.lift (match outcome with
    | .ok value => .ok value
    | .error e => .error (wrap e))

/-- What a verb finds besides the environment: the operator's key and the
environment's trust root. -/
structure PolicyContext where
  signing : Signing
  operatorKey : Option OperatorKey
  trustRoot : Option TrustRoot

/-- Both files are read again and checked. -/
def selfVerify (signing : Signing) (trustRoot : TrustRoot) (built : BuiltRevenuePolicyVersion) :
    Storing PUnit := do
  let document ← attempt (.read built.docRef) id
  match document with
  | .document doc =>
    if signing.sha256Hex doc = built.docSha256 then
      let written ← attempt (.read built.policyRef) id
      match written with
      | .envelope text => check .sign (signing.verifyArtifactDsse text built.docSha256 trustRoot)
      | .document _ => throw (.corrupted built.policyRef)
    else throw (.corrupted built.docRef)
  | .envelope _ => throw (.corrupted built.docRef)

def storeVersion (built : BuiltRevenuePolicyVersion) : Storing PUnit := do
  attempt .createDir id
  attempt (.write built.docRef (.document built.doc)) id
  attempt (.write built.policyRef (.envelope built.envelope)) id

def writeRevenuePolicyVersion (context : PolicyContext) (deployment : BundleDeployment)
    (createdAt : DateTime) : Storing PathBuf := do
  let operatorKey ← Program.lift (match context.operatorKey with
    | some key => .ok key
    | none => .error .operatorKey)
  let trustRoot ← Program.lift (match context.trustRoot with
    | some root => .ok root
    | none => .error .trustRoot)
  let built ← check .policy (buildRevenuePolicyVersion context.signing deployment
    deployment.revenueShare createdAt operatorKey trustRoot)
  storeVersion built
  selfVerify context.signing trustRoot built
  return built.policyRef

def pinAndSave (context : PolicyContext) (env : Environment) (index : Nat) (createdAt : DateTime) :
    Storing PUnit := do
  match env.bundles[index]? with
  | none => throw .io
  | some deployment =>
    let policyRef ← writeRevenuePolicyVersion context deployment createdAt
    attempt (.save (pinRevenuePolicyRef env index policyRef)) id

inductive BundleVerb
  | add (payload : AddBundlePayload) (deploymentId : DeploymentId) (now : DateTime)
  | update (payload : UpdateBundlePayload) (now : DateTime)
  | remove (deploymentId : DeploymentId)

/-- `add_bundle`, `update_bundle` and `remove_bundle`. -/
def BundleVerb.body (context : PolicyContext) : BundleVerb → Storing PUnit
  | add payload deploymentId now => do
    let env ← attempt .load id
    match addBundle env payload deploymentId now with
    | (.error e, _) => throw (.bundle e)
    | (.ok index, after) => pinAndSave context after index now
  | update payload now => do
    let env ← attempt .load id
    match updateBundle env payload with
    | (.error e, _) => throw (.bundle e)
    | (.ok applied, after) =>
      if applied.revenueShareChanged then pinAndSave context after applied.index now
      else attempt (.save after) id
  | remove deploymentId => do
    let env ← attempt .load id
    match removeBundle env deploymentId with
    | (.error e, _) => throw (.bundle e)
    | (.ok _, after) => attempt (.save after) id

/-- A verb, cut off where its turns end. -/
structure BundleCall where
  context : PolicyContext
  verb : BundleVerb
  turns : List Turn

def policySystem : System PolicyDisk BundleCall where
  step := fun disk call => (call.verb.body call.context).run.cut access disk call.turns
  allowed := fun _ _ => True

/-- A reference to a version resolves: its signature and document are there, and so
on, one version at a time, back to version 1. -/
inductive Resolves (files : PathBuf → Option PolicyFile) : Nat → PathBuf → Prop
  | first {path doc text} (document : files path = some (.document doc))
      (envelope : files (path ++ ".sig") = some (.envelope text)) (numbered : doc.version = 1)
      (none_ : doc.previousVersionRef = none) : Resolves files 1 (path ++ ".sig")
  | next {n path doc text previous} (document : files path = some (.document doc))
      (envelope : files (path ++ ".sig") = some (.envelope text)) (numbered : doc.version = n + 1)
      (link : doc.previousVersionRef = some previous) (earlier : Resolves files n previous) :
      Resolves files (n + 1) (path ++ ".sig")

/-- One version on disk, as it was built. -/
structure VersionFiled (files : PathBuf → Option PolicyFile) (bundleId : BundleId)
    (customerId : CustomerId) (version : Nat) (doc : RevenuePolicyDocument) : Prop where
  document : files (docRef bundleId customerId version) = some (.document doc)
  numbered : doc.version = version
  envelope : ∃ text, files (sidecarRef bundleId customerId version) = some (.envelope text)
  previous : doc.previousVersionRef =
    if version > 1 then some (sidecarRef bundleId customerId (version - 1)) else none

/-- An account whose versions are all on disk, up to the one it pins. -/
structure Filed (files : PathBuf → Option PolicyFile) (account : Account) (version : Nat) :
    Prop where
  positive : 1 ≤ version
  small : version < 2 ^ 64
  safe : SafeIds account.bundleId account.customerId
  reference : account.revenuePolicyRef =
    sidecarRef account.bundleId account.customerId version
  versions : ∀ k, 1 ≤ k → k ≤ version → ∃ doc,
    VersionFiled files account.bundleId account.customerId k doc
  share : ∀ doc, files (docRef account.bundleId account.customerId version) =
    some (.document doc) → doc.revenueShare = account.revenueShare

structure Kept (disk : PolicyDisk) : Prop where
  apart : CustomersApart disk.env
  filed : ∀ account ∈ accounts disk.env, ∃ version, Filed disk.files account version

/-- The version after the one a deployment pins. -/
theorem Filed.next {files : PathBuf → Option PolicyFile} {account : Account} {n : Nat}
    (filed : Filed files account n) :
    nextVersionFromRef account.revenuePolicyRef =
      if n + 1 < 2 ^ 64 then .ok (n + 1) else .error .versionOverflow := by
  unfold nextVersionFromRef
  rw [filed.reference, parseSidecarVersion_sidecarRef _ _ filed.positive filed.small]

theorem Filed.resolves {files : PathBuf → Option PolicyFile} {account : Account} {n : Nat}
    (filed : Filed files account n) (k : Nat) (positive : 1 ≤ k) (within : k ≤ n) :
    Resolves files k (sidecarRef account.bundleId account.customerId k) := by
  induction k with
  | zero => omega
  | succ k ih =>
      obtain ⟨doc, version⟩ := filed.versions (k + 1) positive within
      obtain ⟨text, envelope⟩ := version.envelope
      have previous := version.previous
      rw [sidecarRef_eq] at envelope ⊢
      by_cases first : k = 0
      · subst first
        exact .first version.document envelope version.numbered previous
      · rw [if_pos (by omega), Nat.add_sub_cancel] at previous
        exact .next version.document envelope version.numbered previous
          (ih (by omega) (by omega))

def Spare (env : Environment) (bundleId : BundleId) (customerId : CustomerId) (version : Nat) :
    Prop :=
  ∀ account ∈ accounts env, account.bundleId = bundleId → account.customerId = customerId →
    ∃ n, n < version ∧ account.revenuePolicyRef = sidecarRef bundleId customerId n

variable {disk : PolicyDisk} {bundleId : BundleId} {customerId : CustomerId} {version : Nat}

theorem Filed.put {files : PathBuf → Option PolicyFile} {account : Account} {n : Nat}
    (filed : Filed files account n) {path : PathBuf} (file : PolicyFile)
    (document : ∀ k, k ≤ n → docRef account.bundleId account.customerId k ≠ path)
    (envelope : ∀ k, k ≤ n → sidecarRef account.bundleId account.customerId k ≠ path) :
    Filed (Function.update files path (some file)) account n where
  positive := filed.positive
  small := filed.small
  safe := filed.safe
  reference := filed.reference
  versions := by
    intro k positive within
    obtain ⟨doc, version⟩ := filed.versions k positive within
    obtain ⟨text, stored⟩ := version.envelope
    refine ⟨doc, ?_, version.numbered, ⟨text, ?_⟩, version.previous⟩
    · rw [Function.update_of_ne (document k within), version.document]
    · rw [Function.update_of_ne (envelope k within), stored]
  share := by
    intro doc stored
    rw [Function.update_of_ne (document n (Nat.le_refl n))] at stored
    exact filed.share doc stored

theorem Spare.before {account : Account} {n k : Nat} (spare : Spare disk.env bundleId customerId version)
    (safe : SafeIds bundleId customerId) (member : account ∈ accounts disk.env)
    (filed : Filed disk.files account n) (within : k ≤ n)
    (bundles : account.bundleId = bundleId) (customers : account.customerId = customerId) :
    k < version := by
  obtain ⟨m, earlier, reference⟩ := spare account member bundles customers
  have same := filed.reference.symm.trans reference
  have number := (sidecarRef_injective filed.safe safe same).2.2
  omega

theorem Kept.putDocument (kept : Kept disk) (spare : Spare disk.env bundleId customerId version)
    (safe : SafeIds bundleId customerId) (file : PolicyFile) :
    Kept (disk.put (docRef bundleId customerId version) file) where
  apart := kept.apart
  filed := by
    intro account member
    obtain ⟨n, filed⟩ := kept.filed account member
    refine ⟨n, filed.put file ?_ ?_⟩
    · intro k within same
      obtain ⟨bundles, customers, number⟩ := docRef_injective filed.safe safe same
      have earlier := spare.before safe member filed within bundles customers
      omega
    · intro k _ same
      exact docRef_ne_sidecarRef _ _ same.symm

theorem Kept.putEnvelope (kept : Kept disk) (spare : Spare disk.env bundleId customerId version)
    (safe : SafeIds bundleId customerId) (file : PolicyFile) :
    Kept (disk.put (sidecarRef bundleId customerId version) file) where
  apart := kept.apart
  filed := by
    intro account member
    obtain ⟨n, filed⟩ := kept.filed account member
    refine ⟨n, filed.put file ?_ ?_⟩
    · intro k _ same
      exact docRef_ne_sidecarRef _ _ same
    · intro k within same
      obtain ⟨bundles, customers, number⟩ := sidecarRef_injective filed.safe safe same
      have earlier := spare.before safe member filed within bundles customers
      omega

/-- An environment about to pin a new version for the deployment at an index: the
others are as saved, and the saved deployment of these ids, if there is one, pins
the version before. -/
structure Repriced (before after : Environment) (index : Nat) (deployment : BundleDeployment) :
    Prop where
  apart : CustomersApart after
  found : after.bundles[index]? = some deployment
  others : ∀ other b, other ≠ index → after.bundles[other]? = some b → b ∈ before.bundles
  prior : ∀ account ∈ accounts before, account.bundleId = deployment.bundleId →
    account.customerId = deployment.customerId →
    account.revenuePolicyRef = deployment.revenuePolicyRef
  origin : deployment.revenuePolicyRef = "" ∨ ∃ account ∈ accounts before,
    account.bundleId = deployment.bundleId ∧ account.customerId = deployment.customerId

theorem sidecarRef_ne_empty (bundleId : BundleId) (customerId : CustomerId) (version : Nat) :
    sidecarRef bundleId customerId version ≠ "" := by
  intro same
  have lists := congrArg String.toList same
  simp [sidecarRef, policyDir, String.toList_append] at lists

theorem Kept.next_version (kept : Kept disk) {after : Environment} {index : Nat}
    {deployment : BundleDeployment} (repriced : Repriced disk.env after index deployment)
    (numbered : nextVersionFromRef deployment.revenuePolicyRef = .ok version) :
    Spare disk.env deployment.bundleId deployment.customerId version ∧
      1 ≤ version ∧ version < 2 ^ 64 ∧
      ∀ k, 1 ≤ k → k < version → ∃ doc,
        VersionFiled disk.files deployment.bundleId deployment.customerId k doc := by
  rcases repriced.origin with blank | ⟨account, member, bundles, customers⟩
  · have first : version = 1 := by
      rw [blank] at numbered
      have one : nextVersionFromRef "" = .ok 1 := by decide
      rw [one] at numbered
      exact (Except.ok.inj numbered).symm
    subst first
    refine ⟨?_, by omega, by omega, fun k _ _ => by omega⟩
    intro account member bundles customers
    obtain ⟨n, filed⟩ := kept.filed account member
    have empty := repriced.prior account member bundles customers
    rw [blank, filed.reference] at empty
    exact absurd empty (sidecarRef_ne_empty _ _ _)
  · obtain ⟨n, filed⟩ := kept.filed account member
    rw [← repriced.prior account member bundles customers, filed.next] at numbered
    split at numbered
    · cases numbered
      refine ⟨?_, by omega, by assumption, ?_⟩
      · intro other present sameBundle sameCustomer
        refine ⟨n, by omega, ?_⟩
        rw [repriced.prior other present sameBundle sameCustomer,
          ← repriced.prior account member bundles customers, filed.reference, bundles, customers]
      · intro k positive within
        rw [← bundles, ← customers]
        exact filed.versions k positive (by omega)
    · cases numbered

theorem customersApart_pin {env : Environment} (apart : CustomersApart env) (index : Nat)
    (policyRef : PathBuf) : CustomersApart (pinRevenuePolicyRef env index policyRef) := by
  have same : (pinRevenuePolicyRef env index policyRef).bundles.map
      (fun b => (b.bundleId, b.customerId)) = env.bundles.map fun b => (b.bundleId, b.customerId) := by
    apply List.ext_getElem?
    intro i
    simp only [pinRevenuePolicyRef, List.getElem?_map, List.getElem?_modify]
    cases env.bundles[i]? with
    | none => rfl
    | some b => by_cases here : index = i <;> simp [here]
  rw [CustomersApart, same]
  exact apart

theorem Kept.pinned (kept : Kept disk) {after : Environment} {index : Nat}
    {deployment : BundleDeployment} (repriced : Repriced disk.env after index deployment)
    {doc : RevenuePolicyDocument} (positive : 1 ≤ version) (small : version < 2 ^ 64)
    (safe : SafeIds deployment.bundleId deployment.customerId)
    (versions : ∀ k, 1 ≤ k → k ≤ version → ∃ doc,
      VersionFiled disk.files deployment.bundleId deployment.customerId k doc)
    (stored : disk.files (docRef deployment.bundleId deployment.customerId version) =
      some (.document doc))
    (share : doc.revenueShare = deployment.revenueShare) :
    Kept ⟨pinRevenuePolicyRef after index
      (sidecarRef deployment.bundleId deployment.customerId version), disk.files⟩ where
  apart := customersApart_pin repriced.apart index _
  filed := by
    intro account member
    obtain ⟨b, deployed, rfl⟩ := List.mem_map.mp member
    obtain ⟨position, found⟩ := List.mem_iff_getElem?.mp deployed
    simp only [pinRevenuePolicyRef] at found
    by_cases own : position = index
    · subst own
      rw [List.getElem?_modify_eq, repriced.found] at found
      cases found
      refine ⟨version, positive, small, safe, rfl, versions, ?_⟩
      intro other present
      simp only [accountOf] at present ⊢
      rw [stored] at present
      cases present
      exact share
    · rw [List.getElem?_modify_ne _ _ (Ne.symm own)] at found
      have old := repriced.others position b own found
      exact kept.filed (accountOf b) (List.mem_map.mpr ⟨b, old, rfl⟩)

/-- The correctness of a step of a verb. -/
abbrev Keeps {α : Type} (post : α → PolicyDisk → Prop) (program : Storing α) (disk : PolicyDisk) :
    Prop :=
  Program.Careful access (fun _ _ => True) Kept post program disk

theorem keeps_attempt {call : PolicyCall} {α : Type} {outcome : call.Reply → Option α}
    {post : α → PolicyDisk → Prop} (kept : ∀ turn, Kept disk → Kept (access turn disk call).2)
    (ends : ∀ turn value, outcome (access turn disk call).1 = some value →
      post value (access turn disk call).2) : Keeps post (attempt call outcome) disk := by
  refine Program.Careful.ask (fun _ => trivial) kept ?_
  intro turn value _ returned
  split at returned
  · rename_i given
    cases returned
    exact ends turn value given
  · cases returned

theorem keeps_lift {α : Type} {outcome : Except StoreError α} :
    Keeps (fun _ after => after = disk) (Program.lift outcome) disk := by
  cases outcome with
  | ok value => exact Program.Careful.pure fun _ => rfl
  | error e => exact Program.Careful.throw _

theorem keeps_check {ε α : Type} {wrap : ε → StoreError} {outcome : Except ε α} :
    Keeps (fun value after => after = disk ∧ outcome = .ok value) (check wrap outcome) disk := by
  cases outcome with
  | ok value => exact Program.Careful.pure fun _ => ⟨rfl, rfl⟩
  | error e => exact Program.Careful.throw _

theorem keeps_load :
    Keeps (fun env after => after = disk ∧ env = disk.env) (attempt .load id) disk := by
  refine keeps_attempt (fun _ kept => kept) ?_
  intro turn env returned
  cases turn with
  | done =>
      cases returned
      exact ⟨rfl, rfl⟩
  | failed effective => cases returned

theorem keeps_write {path : PathBuf} {file : PolicyFile} (kept : Kept disk → Kept (disk.put path file)) :
    Keeps (fun _ after => after = disk.put path file) (attempt (.write path file) id) disk := by
  refine keeps_attempt ?_ ?_
  · intro turn before
    simp only [access]
    split
    · exact kept before
    · exact before
  · intro turn _ returned
    cases turn with
    | done => rfl
    | failed effective => cases returned

theorem keeps_save {env : Environment} (kept : Kept disk → Kept ⟨env, disk.files⟩) :
    Keeps (fun _ _ => True) (attempt (.save env) id) disk := by
  refine keeps_attempt ?_ fun _ _ _ => trivial
  intro turn before
  simp only [access]
  split
  · exact kept before
  · exact before

theorem keeps_selfVerify {signing : Signing} {trustRoot : TrustRoot}
    {built : BuiltRevenuePolicyVersion} :
    Keeps (fun _ after => after = disk) (selfVerify signing trustRoot built) disk := by
  refine Program.Careful.andThen (fun _ after => after = disk)
    (keeps_attempt (fun _ kept => kept) fun _ _ _ => rfl) ?_
  rintro file after rfl
  cases file with
  | envelope text => exact Program.Careful.throw _
  | document doc =>
      dsimp only
      split
      · refine Program.Careful.andThen (fun _ next => next = after)
          (keeps_attempt (fun _ kept => kept) fun _ _ _ => rfl) ?_
        rintro written next rfl
        cases written with
        | document doc => exact Program.Careful.throw _
        | envelope text => exact keeps_check.mono fun _ _ _ ended => ended.1
      · exact Program.Careful.throw _

structure Written (before : PolicyDisk) (deployment : BundleDeployment) (policyRef : PathBuf)
    (after : PolicyDisk) (version : Nat) (doc : RevenuePolicyDocument) : Prop where
  env : after.env = before.env
  reference : policyRef = sidecarRef deployment.bundleId deployment.customerId version
  positive : 1 ≤ version
  small : version < 2 ^ 64
  safe : SafeIds deployment.bundleId deployment.customerId
  versions : ∀ k, 1 ≤ k → k ≤ version → ∃ doc,
    VersionFiled after.files deployment.bundleId deployment.customerId k doc
  stored : after.files (docRef deployment.bundleId deployment.customerId version) =
    some (.document doc)
  share : doc.revenueShare = deployment.revenueShare

theorem versions_written {files : PathBuf → Option PolicyFile} {doc : RevenuePolicyDocument}
    {text : String} (safe : SafeIds bundleId customerId) (numbered : doc.version = version)
    (previous : doc.previousVersionRef =
      if version > 1 then some (sidecarRef bundleId customerId (version - 1)) else none)
    (earlier : ∀ k, 1 ≤ k → k < version → ∃ doc, VersionFiled files bundleId customerId k doc) :
    ∀ k, 1 ≤ k → k ≤ version → ∃ filed, VersionFiled (Function.update
      (Function.update files (docRef bundleId customerId version) (some (.document doc)))
      (sidecarRef bundleId customerId version) (some (.envelope text)))
      bundleId customerId k filed := by
  intro k positive within
  by_cases last : k = version
  · subst last
    refine ⟨doc, ?_, numbered, ⟨text, Function.update_self ..⟩, previous⟩
    rw [Function.update_of_ne (docRef_ne_sidecarRef _ _), Function.update_self]
  · obtain ⟨old, filed⟩ := earlier k positive (by omega)
    obtain ⟨envelope, signed⟩ := filed.envelope
    have documents : docRef bundleId customerId k ≠ docRef bundleId customerId version := by
      intro same
      exact last (docRef_injective safe safe same).2.2
    have sidecars : sidecarRef bundleId customerId k ≠ sidecarRef bundleId customerId version := by
      intro same
      exact last (sidecarRef_injective safe safe same).2.2
    refine ⟨old, ?_, filed.numbered, ⟨envelope, ?_⟩, filed.previous⟩
    · rw [Function.update_of_ne (docRef_ne_sidecarRef _ _), Function.update_of_ne documents,
        filed.document]
    · rw [Function.update_of_ne sidecars, Function.update_of_ne (docRef_ne_sidecarRef _ _).symm,
        signed]

theorem keeps_storeVersion {built : BuiltRevenuePolicyVersion}
    (document : built.docRef = docRef bundleId customerId version)
    (sidecar : built.policyRef = sidecarRef bundleId customerId version)
    (spare : Spare disk.env bundleId customerId version) (safe : SafeIds bundleId customerId) :
    Keeps (fun _ after => after = (disk.put built.docRef (.document built.doc)).put built.policyRef
      (.envelope built.envelope)) (storeVersion built) disk := by
  refine Program.Careful.andThen (fun _ after => after = disk)
    (keeps_attempt (fun _ kept => kept) fun _ _ _ => rfl) ?_
  rintro _ after rfl
  refine Program.Careful.andThen _ (keeps_write fun kept => ?_) ?_
  · rw [document]
    exact kept.putDocument spare safe _
  · rintro _ next rfl
    refine keeps_write fun kept => ?_
    rw [sidecar]
    exact kept.putEnvelope spare safe _

theorem keeps_writeRevenuePolicyVersion {context : PolicyContext} {after : Environment}
    {index : Nat} {deployment : BundleDeployment} {createdAt : DateTime}
    (repriced : Repriced disk.env after index deployment) :
    Keeps (fun policyRef next => ∃ version doc,
      Written disk deployment policyRef next version doc)
      (writeRevenuePolicyVersion context deployment createdAt) disk := by
  refine Program.Careful.of_inv fun kept => ?_
  refine Program.Careful.andThen _ keeps_lift ?_
  rintro operatorKey _ rfl
  refine Program.Careful.andThen _ keeps_lift ?_
  rintro trustRoot _ rfl
  refine Program.Careful.andThen _ keeps_check ?_
  rintro built unchanged ⟨rfl, returned⟩
  obtain ⟨numbered, sidecar, share⟩ := buildRevenuePolicyVersion_ok returned
  obtain ⟨safe, document, content⟩ := buildRevenuePolicyVersion_safe returned
  obtain ⟨spare, positive, small, earlier⟩ := kept.next_version repriced numbered
  refine Program.Careful.andThen _ (keeps_storeVersion document sidecar spare safe) ?_
  rintro _ stored rfl
  refine Program.Careful.andThen _ keeps_selfVerify ?_
  rintro _ next rfl
  refine Program.Careful.pure fun _ => ⟨built.version, built.doc, ?_⟩
  have previous : built.doc.previousVersionRef = if built.version > 1 then
      some (sidecarRef deployment.bundleId deployment.customerId (built.version - 1))
      else none := by
    rw [content]
    rfl
  have version : built.doc.version = built.version := by
    rw [content]
    rfl
  rw [document, sidecar]
  refine ⟨rfl, rfl, positive, small, safe, versions_written safe version previous earlier, ?_,
    share⟩
  simp only [PolicyDisk.put]
  rw [Function.update_of_ne (docRef_ne_sidecarRef _ _), Function.update_self]

theorem keeps_pinAndSave {context : PolicyContext} {after : Environment} {index : Nat}
    {deployment : BundleDeployment} {createdAt : DateTime}
    (repriced : Repriced disk.env after index deployment) :
    Keeps (fun _ _ => True) (pinAndSave context after index createdAt) disk := by
  unfold pinAndSave
  rw [repriced.found]
  refine Program.Careful.andThen _ (keeps_writeRevenuePolicyVersion repriced) ?_
  rintro policyRef next ⟨version, doc, written⟩
  refine keeps_save fun kept => ?_
  rw [written.reference]
  have same : Repriced next.env after index deployment := by
    rw [written.env]
    exact repriced
  exact kept.pinned same written.positive written.small written.safe written.versions
    written.stored written.share

theorem repriced_addBundle {env after : Environment} {payload : AddBundlePayload}
    {deploymentId : DeploymentId} {now : DateTime} {index : Nat} (apart : CustomersApart env)
    (added : addBundle env payload deploymentId now = (.ok index, after)) :
    ∃ deployment, Repriced env after index deployment := by
  unfold addBundle at added
  split at added
  · cases added
  · rename_i vacant
    cases added
    have fresh : ∀ b ∈ env.bundles, ¬ (b.bundleId = payload.bundleId ∧
        b.customerId = payload.customerId) := by
      intro b member both
      exact vacant (List.any_eq_true.mpr ⟨b, member, decide_eq_true both⟩)
    refine ⟨_, nodup_map_append apart ?_, List.getElem?_concat_length, ?_, ?_, .inl ?_⟩
    · intro b member same
      exact fresh b member (Prod.mk.inj same)
    · intro other b elsewhere present
      by_cases within : other < env.bundles.length
      · rw [List.getElem?_append_left within] at present
        exact List.mem_of_getElem? present
      · rw [List.getElem?_eq_none (by simp; omega)] at present
        cases present
    · intro account member bundles customers
      obtain ⟨b, deployed, rfl⟩ := List.mem_map.mp member
      exact absurd ⟨bundles, customers⟩ (fresh b deployed)
    · rfl

theorem repriced_updateBundle {env after : Environment} {payload : UpdateBundlePayload}
    {applied : BundleUpdateApplied} (apart : CustomersApart env)
    (updated : updateBundle env payload = (.ok applied, after)) :
    ∃ deployment, Repriced env after applied.index deployment := by
  unfold updateBundle at updated
  split at updated
  · cases updated
  · rename_i found located
    cases updated
    have hit := Located.mem_hit located
    refine ⟨patchBundle payload found.hit, ?_, ?_, ?_, ?_, .inr ⟨accountOf found.hit, ?_⟩⟩
    · have same : (found.replace (patchBundle payload found.hit)).map
          (fun b => (b.bundleId, b.customerId)) = env.bundles.map fun b => (b.bundleId, b.customerId) :=
        Located.map_replace located _ rfl
      rw [CustomersApart, same]
      exact apart
    · simp [Located.replace, Located.index]
    · intro other b elsewhere present
      simp only [Located.getElem?_replace_of_ne located elsewhere] at present
      exact List.mem_of_getElem? present
    · intro account member bundles customers
      obtain ⟨b, deployed, rfl⟩ := List.mem_map.mp member
      have same : b = found.hit :=
        List.inj_on_of_nodup_map apart deployed hit (Prod.ext bundles customers)
      rw [same]
      rfl
    · exact ⟨List.mem_map.mpr ⟨_, hit, rfl⟩, rfl, rfl⟩

theorem Kept.fewer (kept : Kept disk) {after : Environment}
    (fewer : (accounts after).Sublist (accounts disk.env)) : Kept ⟨after, disk.files⟩ where
  apart := by
    have keys : ∀ env : Environment, env.bundles.map (fun b => (b.bundleId, b.customerId)) =
        (accounts env).map fun account => (account.bundleId, account.customerId) := by
      intro env
      simp [accounts, accountOf]
    rw [CustomersApart, keys]
    have apart := kept.apart
    rw [CustomersApart, keys] at apart
    exact apart.sublist (fewer.map _)
  filed := fun account member => kept.filed account (fewer.subset member)

theorem updateBundle_unpriced {env after : Environment} {payload : UpdateBundlePayload}
    {applied : BundleUpdateApplied} (updated : updateBundle env payload = (.ok applied, after))
    (unchanged : ¬ applied.revenueShareChanged = true) : accounts after = accounts env := by
  unfold updateBundle at updated
  split at updated
  · cases updated
  · rename_i found located
    cases updated
    have shareless : payload.revenueShare = none := by simpa using unchanged
    refine Located.map_replace located accountOf ?_
    simp only [accountOf, patchBundle, shareless, Option.getD_none]

theorem removeBundle_fewer {env after : Environment} {deploymentId : DeploymentId}
    {gone : RemoveBundleOutcome} (removed : removeBundle env deploymentId = (.ok gone, after)) :
    (accounts after).Sublist (accounts env) := by
  unfold removeBundle at removed
  split at removed
  · cases removed
  · rename_i found located
    dsimp only at removed
    split at removed
    · cases removed
    · cases removed
      exact (Located.remove_sublist located).map accountOf

/-- Where a verb is cut off or fails, the saved environment names only whole
versions. -/
theorem keeps_body (context : PolicyContext) (verb : BundleVerb) :
    Keeps (fun _ _ => True) (verb.body context) disk := by
  refine Program.Careful.of_inv fun kept => ?_
  cases verb with
  | add payload deploymentId now =>
      refine Program.Careful.andThen _ keeps_load ?_
      rintro env after ⟨rfl, rfl⟩
      cases added : addBundle after.env payload deploymentId now with
      | mk outcome changed =>
          cases outcome with
          | error e => exact Program.Careful.throw _
          | ok index =>
              obtain ⟨deployment, repriced⟩ := repriced_addBundle kept.apart added
              exact keeps_pinAndSave repriced
  | update payload now =>
      refine Program.Careful.andThen _ keeps_load ?_
      rintro env after ⟨rfl, rfl⟩
      cases updated : updateBundle after.env payload with
      | mk outcome changed =>
          cases outcome with
          | error e => exact Program.Careful.throw _
          | ok applied =>
              dsimp only
              split
              · obtain ⟨deployment, repriced⟩ := repriced_updateBundle kept.apart updated
                exact keeps_pinAndSave repriced
              · rename_i unchanged
                have same := updateBundle_unpriced updated unchanged
                exact keeps_save fun kept => kept.fewer (by rw [same])
  | remove deploymentId =>
      refine Program.Careful.andThen _ keeps_load ?_
      rintro env after ⟨rfl, rfl⟩
      cases removed : removeBundle after.env deploymentId with
      | mk outcome changed =>
          cases outcome with
          | error e => exact Program.Careful.throw _
          | ok gone => exact keeps_save fun kept => kept.fewer (removeBundle_fewer removed)

/-- However the writes of the bundle verbs fail or stop, every deployment of the
saved environment names a document and a signature that are there, with its own
share, and a chain of consecutive versions from that document's back to version 1. -/
theorem saved_policies_resolve (start : PolicyDisk) (bare : start.env.bundles = [])
    (calls : List BundleCall) :
    ∀ disk ∈ policySystem.states start calls, ∀ b ∈ disk.env.bundles,
      ∃ path doc text, b.revenuePolicyRef = path ++ ".sig" ∧
        disk.files path = some (.document doc) ∧
        disk.files b.revenuePolicyRef = some (.envelope text) ∧
        doc.revenueShare = b.revenueShare ∧
        Resolves disk.files doc.version b.revenuePolicyRef := by
  have initial : Kept start := by
    refine ⟨?_, ?_⟩
    · rw [CustomersApart, bare]
      exact List.nodup_nil
    · intro account member
      rw [accounts, bare] at member
      cases member
  have kept := policySystem.invariant Kept
    (fun disk call _ kept => (keeps_body call.context call.verb).cut kept call.turns)
    start calls (policySystem.admits_of_allowed (fun _ _ => trivial) _ _) initial
  intro disk visited b member
  obtain ⟨n, filed⟩ := (kept disk visited).filed (accountOf b) (List.mem_map.mpr ⟨b, member, rfl⟩)
  obtain ⟨doc, version⟩ := filed.versions n filed.positive (Nat.le_refl n)
  obtain ⟨text, envelope⟩ := version.envelope
  have reference : b.revenuePolicyRef = sidecarRef b.bundleId b.customerId n := filed.reference
  refine ⟨docRef b.bundleId b.customerId n, doc, text, ?_, version.document, ?_,
    filed.share doc version.document, ?_⟩
  · rw [reference, sidecarRef_eq]
  · rw [reference]
    exact envelope
  · rw [reference, version.numbered]
    exact filed.resolves n filed.positive (Nat.le_refl n)

def sampleContext : PolicyContext :=
  ⟨.naming fun doc => documentName doc.version, some ⟨"op", "private", "op"⟩, some ⟨[⟨"op", "op"⟩]⟩⟩

def sampleUpdate : BundleVerb :=
  .update ⟨⟨1⟩, none, none, none, some [⟨⟨"greentic"⟩, 4000⟩, ⟨⟨"vendor"⟩, 6000⟩], none⟩ 0

/-- An update that fails at its signature leaves a document of the second version;
the environment goes on pinning the first. -/
def failedUpdate : List BundleCall :=
  [⟨sampleContext, .add demoBundle ⟨1⟩ 0, List.replicate 7 .done⟩,
    ⟨sampleContext, sampleUpdate, [.done, .done, .done, .failed false]⟩]

/-- The update made again writes the second version over what the first try left. -/
def retriedUpdate : List BundleCall :=
  failedUpdate ++ [⟨sampleContext, sampleUpdate, List.replicate 7 .done⟩]

theorem orphan_is_not_pinned :
    let failed := policySystem.run ⟨localFresh, fun _ => none⟩ failedUpdate
    let disk := policySystem.run ⟨localFresh, fun _ => none⟩ retriedUpdate
    failed.env.bundles.map (·.revenuePolicyRef) =
        ["billing-policies/demo/local-dev/v1.json.sig"] ∧
    (failed.files "billing-policies/demo/local-dev/v2.json").isSome = true ∧
    disk.env.bundles.map (·.revenuePolicyRef) = ["billing-policies/demo/local-dev/v2.json.sig"] ∧
    ((disk.files "billing-policies/demo/local-dev/v2.json").any fun
      | .document doc => doc.version = 2 ∧
        doc.previousVersionRef = some "billing-policies/demo/local-dev/v1.json.sig"
      | .envelope _ => false) = true ∧
    ∀ b ∈ disk.env.bundles, ∃ path doc text, b.revenuePolicyRef = path ++ ".sig" ∧
      disk.files path = some (.document doc) ∧
      disk.files b.revenuePolicyRef = some (.envelope text) ∧
      doc.revenueShare = b.revenueShare ∧
      Resolves disk.files doc.version b.revenuePolicyRef := by
  refine ⟨by decide, by decide, by decide, by decide, ?_⟩
  exact saved_policies_resolve ⟨localFresh, fun _ => none⟩ rfl retriedUpdate _
    (policySystem.run_mem_states _ _)

end GreenticDeployer.Local
