import GreenticDeployer.Lib.Programs
import GreenticDeployer.Lib.Results
import GreenticDeployer.Trust.OperatorKey

/-!
# One operator key

Whoever loads or generates the operator's key on a machine, and however they race,
gets the same one. A key that others could have redirected or may read is refused.
-/

set_option maxHeartbeats 200000

namespace GreenticDeployer.Trust

open Spec Lib
open Local (Turn)

variable {K : Type}

section

variable {lib : KeyLibrary K} {path : KeyPath} {disk after : KeyDisk} {k : KeyKnown} {pem : String}

def Stored (path : KeyPath) (disk : KeyDisk) (pem : String) : Prop :=
  ∃ mode, disk path = some (.regular mode pem)

/-- The public file is one of the private key. -/
def Matches (lib : KeyLibrary K) (pem contents : String) : Prop :=
  ∃ publicPem keyId existingId, derivePublicPemAndKeyId lib pem = .ok (publicPem, keyId) ∧
    lib.keyIdForPublicKeyPem contents = .ok existingId ∧ eqIgnoreAsciiCase existingId keyId = true

/-- Nothing at the path, or a key that opens; beside it nothing, or that key's public
file. -/
structure Paired (lib : KeyLibrary K) (path : KeyPath) (disk : KeyDisk) : Prop where
  key : disk path = none ∨ ∃ pem derived, Stored path disk pem ∧
    derivePublicPemAndKeyId lib pem = .ok derived
  sibling : ∀ node, disk (publicSibling path) = some node → ∃ mode contents pem,
    node = .regular mode contents ∧ Stored path disk pem ∧ Matches lib pem contents

structure KnowsKey (lib : KeyLibrary K) (path : KeyPath) (k : KeyKnown) (disk : KeyDisk) :
    Prop where
  pem : ∀ pem, k.pem = some pem → Stored path disk pem ∧
    ∃ derived, derivePublicPemAndKeyId lib pem = .ok derived
  sibling : ∀ contents, k.sibling = some contents → ∃ pem, Stored path disk pem ∧
    Matches lib pem contents

/-- The key is written fresh, its sibling from the key that was read; the operator
touches the sibling and the key's mode. -/
def keyPermits (lib : KeyLibrary K) (path : KeyPath) (k : KeyKnown) : KeyCall → Prop
  | .createDirAll other => other.names.length < path.names.length
  | .writeExclusive other contents _ =>
    (other = path ∧ ∃ derived, derivePublicPemAndKeyId lib contents = .ok derived) ∨
    (other = publicSibling path ∧ ∃ pem keyId, k.pem = some pem ∧
      derivePublicPemAndKeyId lib pem = .ok (contents, keyId))
  | .removeFile other => other = publicSibling path
  | .setMode other _ => other = path
  | _ => True

theorem publicSibling_ne (path : KeyPath) : publicSibling path ≠ path := by
  obtain ⟨absolute, names⟩ := path
  cases names with
  | nil => simp [publicSibling]
  | cons name rest =>
      intro same
      have names := congrArg (fun path => (path.names.head?.map String.length)) same
      simp [publicSibling] at names

theorem names_publicSibling (path : KeyPath) :
    path.names.length ≤ (publicSibling path).names.length := by
  obtain ⟨absolute, names⟩ := path
  cases names <;> simp [publicSibling]

theorem eqIgnoreAsciiCase_refl (id : String) : eqIgnoreAsciiCase id id = true := by
  simp [eqIgnoreAsciiCase]

theorem Stored.unique {other : String} (one : Stored path disk pem)
    (two : Stored path disk other) : pem = other := by
  obtain ⟨_, one⟩ := one
  obtain ⟨_, two⟩ := two
  cases one.symm.trans two
  rfl

theorem matches_derived {publicPem keyId : String}
    (derived : derivePublicPemAndKeyId lib pem = .ok (publicPem, keyId)) :
    Matches lib pem publicPem := by
  have named := derived
  unfold derivePublicPemAndKeyId at named
  obtain ⟨sk, _, named⟩ := bind_ok named
  obtain ⟨written, _, named⟩ := bind_ok named
  obtain ⟨id, identified, named⟩ := bind_ok named
  cases named
  exact ⟨_, _, _, derived, mapError_ok identified, eqIgnoreAsciiCase_refl _⟩

structure KeepsKey (lib : KeyLibrary K) (path : KeyPath) (before after : KeyDisk) : Prop where
  paired : Paired lib path after
  stored : ∀ pem, Stored path before pem → Stored path after pem

theorem Stored.of_same (stored : Stored path disk pem) (key : after path = disk path) :
    Stored path after pem := by
  rwa [Stored, key]

theorem Paired.key_of_same (paired : Paired lib path disk) (key : after path = disk path) :
    after path = none ∨ ∃ pem derived, Stored path after pem ∧
      derivePublicPemAndKeyId lib pem = .ok derived := by
  rcases paired.key with vacant | ⟨pem, derived, there, opens⟩
  · exact .inl (key.trans vacant)
  · exact .inr ⟨pem, derived, there.of_same key, opens⟩

theorem KeepsKey.of_same (paired : Paired lib path disk) (key : after path = disk path)
    (sibling : after (publicSibling path) = disk (publicSibling path)) :
    KeepsKey lib path disk after := by
  refine ⟨⟨paired.key_of_same key, ?_⟩, fun _ stored => stored.of_same key⟩
  intro node present
  rw [sibling] at present
  obtain ⟨mode, contents, pem, rfl, there, same⟩ := paired.sibling node present
  exact ⟨mode, contents, pem, rfl, there.of_same key, same⟩

theorem KeepsKey.generated {derived : String × String} (mode : Nat) (paired : Paired lib path disk)
    (vacant : disk path = none) (opens : derivePublicPemAndKeyId lib pem = .ok derived) :
    KeepsKey lib path disk (Function.update disk path (some (.regular mode pem))) := by
  have there : Stored path (Function.update disk path (some (.regular mode pem))) pem :=
    ⟨mode, Function.update_self path _ disk⟩
  have absent : ∀ pem, ¬ Stored path disk pem := by
    rintro pem ⟨_, present⟩
    rw [vacant] at present
    cases present
  refine ⟨⟨.inr ⟨pem, derived, there, opens⟩, ?_⟩, fun pem stored => absurd stored (absent pem)⟩
  intro node present
  rw [Function.update_of_ne (publicSibling_ne path)] at present
  obtain ⟨_, _, pem, _, stored, _⟩ := paired.sibling node present
  exact absurd stored (absent pem)

theorem KeepsKey.beside {contents : String} (mode : Nat) (paired : Paired lib path disk)
    (stored : Stored path disk pem) (same : Matches lib pem contents) :
    KeepsKey lib path disk
      (Function.update disk (publicSibling path) (some (.regular mode contents))) := by
  have key : Function.update disk (publicSibling path) (some (.regular mode contents)) path =
      disk path := Function.update_of_ne (publicSibling_ne path).symm _ disk
  refine ⟨⟨paired.key_of_same key, ?_⟩, fun _ stored => stored.of_same key⟩
  intro node present
  rw [Function.update_self] at present
  cases present
  exact ⟨mode, contents, pem, rfl, stored.of_same key, same⟩

theorem KeepsKey.unpublished (paired : Paired lib path disk) :
    KeepsKey lib path disk (Function.update disk (publicSibling path) none) := by
  have key : Function.update disk (publicSibling path) none path = disk path :=
    Function.update_of_ne (publicSibling_ne path).symm _ disk
  refine ⟨⟨paired.key_of_same key, ?_⟩, fun _ stored => stored.of_same key⟩
  intro node present
  rw [Function.update_self] at present
  cases present

theorem KeepsKey.withMode (mode : Nat) (paired : Paired lib path disk) :
    KeepsKey lib path disk (disk.withMode path mode) := by
  unfold KeyDisk.withMode
  split
  · rename_i old contents present
    have kept : ∀ pem, Stored path disk pem →
        Stored path (Function.update disk path (some (.regular mode contents))) pem := by
      rintro pem ⟨_, there⟩
      cases present.symm.trans there
      exact ⟨mode, Function.update_self path _ disk⟩
    refine ⟨⟨.inr ?_, ?_⟩, kept⟩
    · rcases paired.key with vacant | ⟨pem, derived, there, opens⟩
      · rw [vacant] at present
        cases present
      · exact ⟨pem, derived, kept pem there, opens⟩
    · intro node found
      rw [Function.update_of_ne (publicSibling_ne path)] at found
      obtain ⟨mode, contents, pem, rfl, there, same⟩ := paired.sibling node found
      exact ⟨mode, contents, pem, rfl, kept pem there, same⟩
  · exact .of_same paired rfl rfl

theorem makeDirs_apart {ancestor other : KeyPath}
    (longer : ancestor.names.length < other.names.length) :
    disk.makeDirs ancestor other = disk other := by
  unfold KeyDisk.makeDirs
  cases disk other with
  | some node => rfl
  | none =>
      have apart : ¬ other.names <:+ ancestor.names := fun suffix => by
        have := suffix.length_le
        omega
      simp [apart]

theorem vacant_of_linked {other : KeyPath} (linked : disk.linked other = .ok ()) :
    disk other = none := by
  unfold KeyDisk.linked at linked
  obtain ⟨_, _, linked⟩ := bind_ok linked
  cases present : disk other with
  | none => rfl
  | some node =>
      rw [present] at linked
      cases linked

theorem access_keeps (turn : Turn) {call : KeyCall} (paired : Paired lib path disk)
    (knows : KnowsKey lib path k disk) (permitted : keyPermits lib path k call) :
    KeepsKey lib path disk (accessKey turn disk call).2 := by
  cases call with
  | createDirAll other =>
      have shorter : other.names.length < path.names.length := permitted
      simp only [accessKey]
      split
      · refine .of_same paired (makeDirs_apart shorter) (makeDirs_apart ?_)
        exact lt_of_lt_of_le shorter (names_publicSibling path)
      · exact .of_same paired rfl rfl
  | writeExclusive other contents mode =>
      simp only [accessKey]
      split
      · rename_i landed
        rcases permitted with ⟨rfl, derived, opens⟩ | ⟨rfl, pem, keyId, known, opens⟩
        · exact .generated mode paired (vacant_of_linked landed.2) opens
        · exact .beside mode paired (knows.pem pem known).1 (matches_derived opens)
      · exact .of_same paired rfl rfl
  | removeFile other =>
      obtain rfl : other = publicSibling path := permitted
      simp only [accessKey]
      split
      · exact .unpublished paired
      · exact .of_same paired rfl rfl
  | setMode other mode =>
      obtain rfl : other = path := permitted
      simp only [accessKey]
      split
      · exact .withMode mode paired
      · exact .of_same paired rfl rfl
  | _ => exact .of_same paired rfl rfl

theorem KnowsKey.keep (knows : KnowsKey lib path k disk) (keeps : KeepsKey lib path disk after) :
    KnowsKey lib path k after where
  pem := fun pem known => ⟨keeps.stored pem (knows.pem pem known).1, (knows.pem pem known).2⟩
  sibling := by
    intro contents known
    obtain ⟨pem, stored, same⟩ := knows.sibling contents known
    exact ⟨pem, keeps.stored pem stored, same⟩

theorem gives_ok {α : Type} {turn : Turn} {outcome : Except IoErrorKind α} {value : α}
    (given : gives turn outcome = .ok value) : turn = .done ∧ outcome = .ok value := by
  cases turn with
  | done => exact ⟨rfl, given⟩
  | failed effective => cases given

theorem KnowsKey.learn (turn : Turn) {call : KeyCall} (paired : Paired lib path disk)
    (knows : KnowsKey lib path k disk) (permitted : keyPermits lib path k call) :
    KnowsKey lib path (learnKey path k call (accessKey turn disk call).1)
      (accessKey turn disk call).2 := by
  have keeps := access_keeps turn paired knows permitted
  have kept := knows.keep keeps
  unfold learnKey
  split
  · rename_i other mode pem replied
    split
    · rename_i same
      subst same
      obtain ⟨_, opened⟩ := gives_ok replied
      refine ⟨?_, kept.sibling⟩
      rintro _ ⟨⟩
      have there : Stored other disk pem := by
        unfold KeyDisk.found at opened
        split at opened
        · cases opened
        · rename_i node present
          cases node <;> cases opened
          exact ⟨mode, present⟩
      rcases paired.key with vacant | ⟨stored, derived, held, opens⟩
      · obtain ⟨_, present⟩ := there
        rw [vacant] at present
        cases present
      · cases there.unique held
        exact ⟨there, derived, opens⟩
    · exact kept
  · rename_i other contents replied
    split
    · rename_i same
      subst same
      obtain ⟨_, read⟩ := gives_ok replied
      refine ⟨kept.pem, ?_⟩
      rintro _ ⟨⟩
      unfold KeyDisk.found at read
      split at read
      · cases read
      · rename_i node present
        obtain ⟨mode, held, pem, rfl, stored, same⟩ := paired.sibling node present
        cases read
        exact ⟨pem, stored, same⟩
    · exact kept
  · rename_i other contents mode _ replied
    split
    · rename_i same
      subst same
      obtain ⟨rfl, linked⟩ := gives_ok replied
      refine ⟨?_, kept.sibling⟩
      rintro _ ⟨⟩
      have landed : (accessKey .done disk (.writeExclusive other contents mode)).2 other =
          some (.regular mode contents) := by
        simp [accessKey, Turn.effective, linked]
      refine ⟨⟨mode, landed⟩, ?_⟩
      rcases permitted with ⟨_, derived⟩ | ⟨same, _⟩
      · exact derived
      · exact absurd same.symm (publicSibling_ne other)
    · exact kept
  · exact kept

/-- A sibling is called stale only after one was read that does not match. -/
def FailsWith (lib : KeyLibrary K) (k : KeyKnown) (e : OperatorKeyError) : Prop :=
  ∀ pubPath pubId privId, e = .stalePublicKey pubPath pubId privId →
    ∃ pem contents, k.pem = some pem ∧ k.sibling = some contents ∧ ¬ Matches lib pem contents

/-- A failure that may be, or a value that is due. -/
def Ended {α : Type} (lib : KeyLibrary K) (due : KeyKnown → α → Prop) (k : KeyKnown) :
    Except OperatorKeyError α → Prop
  | .ok value => due k value
  | .error e => FailsWith lib k e

abbrev Follows {α : Type} (lib : KeyLibrary K) (path : KeyPath) (due : KeyKnown → α → Prop)
    (k : KeyKnown) (program : Keying α) : Prop :=
  program.run.Obeys (keyPermits lib path) (learnKey path) (Ended lib due) k

/-- The key a load or a generation returns is the one it knows to be stored. -/
def DueKey (lib : KeyLibrary K) (k : KeyKnown) (key : OperatorKey) : Prop :=
  k.pem = some key.privatePem ∧
    derivePublicPemAndKeyId lib key.privatePem = .ok (key.publicPem, key.keyId)

def DueIdentity (lib : KeyLibrary K) (k : KeyKnown) (identity : KeyIdentity) : Prop :=
  ∀ pem keyId, identity = some (pem, keyId) →
    k.pem = some pem ∧ ∃ publicPem, derivePublicPemAndKeyId lib pem = .ok (publicPem, keyId)

theorem Follows.bind {α β : Type} (due : KeyKnown → α → Prop) {due' : KeyKnown → β → Prop}
    {program : Keying α} {f : α → Keying β} (first : Follows lib path due k program)
    (rest : ∀ k a, due k a → Follows lib path due' k (f a)) :
    Follows lib path due' k (program >>= f) :=
  Program.Obeys.andThen first (fun _ _ failed => failed) rest

theorem failsWith_io (kind : IoErrorKind) : FailsWith lib k (.io kind) := fun _ _ _ same => by
  cases same

theorem follows_lift {α : Type} {due : KeyKnown → α → Prop} {outcome : Except OperatorKeyError α}
    (fails : ∀ e, outcome = .error e → FailsWith lib k e) (holds : ∀ a, outcome = .ok a → due k a) :
    Follows lib path due k (Program.lift outcome) := by
  cases outcome with
  | ok a => exact holds a rfl
  | error e => exact fails e rfl

theorem follows_reply {call : KeyCall} (may : keyPermits lib path k call) :
    Follows lib path (fun k' reply => k' = learnKey path k call reply) k (reply call) :=
  ⟨may, fun _ => rfl⟩

theorem errors_mapError {ε ε' α : Type} {P : ε' → Prop} {outcome : Except ε α} {wrap : ε → ε'}
    {e : ε'} (each : ∀ cause, P (wrap cause)) (failed : outcome.mapError wrap = .error e) :
    P e := by
  cases outcome with
  | ok a => cases failed
  | error cause =>
      cases failed
      exact each cause

theorem errors_bind {ε α β : Type} {P : ε → Prop} {x : Except ε α} {f : α → Except ε β} {e : ε}
    (first : ∀ e, x = .error e → P e) (rest : ∀ a e, f a = .error e → P e)
    (failed : (x >>= f) = .error e) : P e := by
  rcases bind_error failed with early | ⟨a, _, late⟩
  · exact first e early
  · exact rest a e late

theorem derive_fails {e : OperatorKeyError}
    (failed : derivePublicPemAndKeyId lib pem = .error e) : FailsWith lib k e := by
  have decode : ∀ detail, FailsWith lib k (.keyDecode detail) := fun _ _ _ _ same => by cases same
  have signing : ∀ cause, FailsWith lib k (.signing cause) := fun _ _ _ _ same => by cases same
  unfold derivePublicPemAndKeyId at failed
  refine errors_bind (fun _ => errors_mapError fun _ => decode _) ?_ failed
  intro sk _
  refine errors_bind (fun _ => errors_mapError fun _ => decode _) ?_
  intro publicPem _
  refine errors_bind (fun _ => errors_mapError fun _ => signing _) ?_
  intro keyId _ returned
  cases returned

theorem generatePair_fails {seed : Except String (BitVec 256)} {e : OperatorKeyError}
    (failed : generatePair lib seed = .error e) : FailsWith lib k e := by
  have decode : ∀ detail, FailsWith lib k (.keyDecode detail) := fun _ _ _ _ same => by cases same
  have signing : ∀ cause, FailsWith lib k (.signing cause) := fun _ _ _ _ same => by cases same
  have entropy : ∀ detail, FailsWith lib k (.entropy detail) := fun _ _ _ _ same => by cases same
  unfold generatePair at failed
  refine errors_bind (fun _ => errors_mapError fun _ => entropy _) ?_ failed
  intro seed _
  refine errors_bind (fun _ => errors_mapError fun _ => decode _) ?_
  intro privatePem _
  refine errors_bind (fun _ => errors_mapError fun _ => decode _) ?_
  intro publicPem _
  refine errors_bind (fun _ => errors_mapError fun _ => signing _) ?_
  intro keyId _ returned
  cases returned

theorem generatePair_derives {seed : Except String (BitVec 256)} {fresh : OperatorKey}
    (generated : generatePair lib seed = .ok fresh) :
    derivePublicPemAndKeyId lib fresh.privatePem = .ok (fresh.publicPem, fresh.keyId) := by
  unfold generatePair at generated
  obtain ⟨bytes, _, generated⟩ := bind_ok generated
  obtain ⟨privatePem, encoded, generated⟩ := bind_ok generated
  obtain ⟨publicPem, shown, generated⟩ := bind_ok generated
  obtain ⟨keyId, identified, generated⟩ := bind_ok generated
  cases generated
  have opens := lib.fromPkcs8Pem_toPkcs8Pem _ _ (mapError_ok encoded)
  simp only [derivePublicPemAndKeyId, opens, mapError_ok shown, mapError_ok identified,
    Except.mapError, bind, Except.bind]
  rfl

theorem learnKey_symlink {ancestor : KeyPath} (replied : Except IoErrorKind Bool) :
    learnKey path k (.symlinkMetadata ancestor) replied = k := rfl

theorem follows_checkAncestor {ancestor : KeyPath} :
    Follows lib path (fun k' _ => k' = k) k (checkAncestor path ancestor) := by
  refine Program.Obeys.ask trivial fun replied => ?_
  rw [learnKey_symlink]
  cases replied with
  | ok isLink =>
      cases isLink with
      | true => exact fun _ _ _ same => by cases same
      | false => exact rfl
  | error kind =>
      cases kind with
      | notFound => exact rfl
      | _ => exact failsWith_io _

theorem follows_refuseSymlinkFrom (names : List String) :
    Follows lib path (fun k' _ => k' = k) k (refuseSymlinkFrom path names) := by
  induction names with
  | nil =>
      unfold refuseSymlinkFrom
      split
      · exact follows_checkAncestor
      · exact rfl
  | cons name rest ih =>
      refine Follows.bind _ follows_checkAncestor fun _ _ same => ?_
      subst same
      exact ih

theorem follows_refuseSymlinkInAncestors :
    Follows lib path (fun k' _ => k' = k) k (refuseSymlinkInAncestors path) := by
  unfold refuseSymlinkInAncestors
  split
  · exact rfl
  · exact follows_refuseSymlinkFrom _

theorem sortOpened_known (opened : Except IoErrorKind Node) :
    Ended lib (fun k pem => k.pem = some pem) (learnKey path k (.openNoFollow path) opened)
      (sortOpened path opened) := by
  cases opened with
  | error kind =>
      cases kind with
      | filesystemLoop => exact fun _ _ _ same => by cases same
      | _ => exact failsWith_io _
  | ok node =>
      cases node with
      | regular mode contents =>
          by_cases exposed : (mode &&& 0o777) &&& 0o077 ≠ 0
          · have refused : sortOpened path (.ok (.regular mode contents)) =
                .error (.insecurePermissions path (mode &&& 0o777)) := if_pos exposed
            rw [refused]
            exact fun _ _ _ same => by cases same
          · have passed : sortOpened path (.ok (.regular mode contents)) = .ok contents :=
              if_neg exposed
            rw [passed]
            simp [Ended, learnKey]
      | _ => exact fun _ _ _ same => by cases same

theorem follows_readExistingSecurely :
    Follows lib path (fun k pem => k.pem = some pem) k (readExistingSecurely path) :=
  Program.Obeys.ask trivial sortOpened_known

theorem checkSibling_error {publicPem keyId contents : String} {e : OperatorKeyError}
    (derived : derivePublicPemAndKeyId lib pem = .ok (publicPem, keyId)) (known : k.pem = some pem)
    (read : k.sibling = some contents) (failed : checkSibling lib path keyId contents = .error e) :
    FailsWith lib k e := by
  rintro _ _ _ rfl
  refine ⟨pem, contents, known, read, ?_⟩
  rintro ⟨_, id, existing, opens, identified, same⟩
  cases derived.symm.trans opens
  simp only [checkSibling, identified, Except.mapError, bind, Except.bind, same, if_true] at failed
  cases failed

theorem follows_loadExisting (known : k.pem = some pem) :
    Follows lib path (DueKey lib) k (loadExisting lib path pem) := by
  refine Follows.bind (fun k' pair => k' = k ∧ derivePublicPemAndKeyId lib pem = .ok pair)
    (follows_lift (fun _ => derive_fails) fun _ derived => ⟨rfl, derived⟩) ?_
  rintro k ⟨publicPem, keyId⟩ ⟨rfl, derived⟩
  refine Follows.bind _ (follows_reply trivial) ?_
  rintro _ sibling rfl
  have still : (learnKey path k (.readToString (publicSibling path)) sibling).pem = some pem := by
    cases sibling with
    | error kind => exact known
    | ok contents => simpa [learnKey] using known
  refine Follows.bind (fun k' _ => k'.pem = some pem) ?_ fun _ _ known => ⟨known, derived⟩
  cases sibling with
  | ok contents =>
      refine follows_lift (fun e failed => ?_) fun _ _ => still
      exact checkSibling_error derived still (by simp [learnKey]) failed
  | error kind =>
      cases kind with
      | notFound =>
          refine Program.Obeys.ask (.inr ⟨rfl, pem, keyId, known, derived⟩) fun written => ?_
          have same : learnKey path k (.writeExclusive (publicSibling path) publicPem 0o644)
              written = k := by
            cases written with
            | ok _ => simp [learnKey, publicSibling_ne]
            | error _ => rfl
          cases written with
          | ok _ =>
              exact (congrArg KeyKnown.pem same).trans known
          | error kind =>
              cases kind with
              | alreadyExists => exact known
              | _ => exact failsWith_io _
      | _ => exact failsWith_io _

theorem follows_createParent :
    Follows lib path (fun k' _ => k' = k) k (createParent path) := by
  obtain ⟨absolute, names⟩ := path
  cases names with
  | nil => exact rfl
  | cons name rest =>
      simp only [createParent, KeyPath.parent]
      split
      · exact rfl
      · refine Program.Obeys.ask (Nat.lt_succ_self rest.length) fun made => ?_
        cases made with
        | ok _ => exact rfl
        | error _ => exact failsWith_io _

theorem follows_generateAt (seed : Except String (BitVec 256)) :
    Follows lib path (DueKey lib) k (generateAt lib path seed) := by
  refine Follows.bind (fun k' fresh => k' = k ∧ generatePair lib seed = .ok fresh)
    (follows_lift (fun _ => generatePair_fails) fun _ generated => ⟨rfl, generated⟩) ?_
  rintro k fresh ⟨rfl, generated⟩
  have derived := generatePair_derives generated
  refine Follows.bind _ follows_createParent ?_
  rintro k _ rfl
  refine Follows.bind _ (follows_reply (.inl ⟨rfl, _, derived⟩)) ?_
  rintro _ written rfl
  cases written with
  | ok _ =>
      have known : (learnKey path k (.writeExclusive path fresh.privatePem 0o600)
          (.ok ())).pem = some fresh.privatePem := by
        simp [learnKey]
      refine Follows.bind _ (follows_reply (.inr ⟨rfl, _, _, known, derived⟩)) ?_
      rintro _ tried rfl
      refine ⟨?_, derived⟩
      cases tried with
      | ok _ => simp [learnKey, publicSibling_ne]
      | error _ => exact known
  | error kind =>
      cases kind with
      | alreadyExists =>
          refine Follows.bind _ follows_readExistingSecurely fun _ _ known => ?_
          exact follows_loadExisting known
      | _ => exact failsWith_io _

theorem follows_loadOrGenerateAt (seed : Except String (BitVec 256)) :
    Follows lib path (DueKey lib) k (loadOrGenerateAt lib path seed) := by
  refine Follows.bind _ follows_refuseSymlinkInAncestors fun k _ _ => ?_
  refine Follows.bind _ (follows_reply trivial) ?_
  rintro _ opened rfl
  have sorted := @sortOpened_known K lib path k opened
  revert sorted
  unfold loadOrGenerateOpened
  cases sortOpened path opened with
  | ok pem => exact fun known => follows_loadExisting known
  | error e =>
      intro failed
      cases e with
      | io kind =>
          cases kind with
          | notFound => exact follows_generateAt seed
          | _ => exact failed
      | _ => exact failed

theorem follows_loadExistingAt : Follows lib path (DueKey lib) k (loadExistingAt lib path) := by
  refine Follows.bind _ follows_refuseSymlinkInAncestors fun _ _ _ => ?_
  exact Follows.bind _ follows_readExistingSecurely fun _ _ known => follows_loadExisting known

theorem follows_readSigningKeyAt :
    Follows lib path (fun k signing => DueIdentity lib k (some signing)) k
      (readSigningKeyAt lib path) := by
  refine Follows.bind _ follows_refuseSymlinkInAncestors fun _ _ _ => ?_
  refine Follows.bind _ follows_readExistingSecurely fun k' pem known => ?_
  refine Follows.bind (fun k pair => k = k' ∧ derivePublicPemAndKeyId lib pem = .ok pair)
    (follows_lift (fun _ => derive_fails) fun _ derived => ⟨rfl, derived⟩) ?_
  rintro _ ⟨publicPem, keyId⟩ ⟨rfl, derived⟩ _ _ ⟨⟩
  exact ⟨known, publicPem, derived⟩

theorem DueKey.identity {key : OperatorKey} (due : DueKey lib k key) :
    DueIdentity lib k key.identity := by
  rintro _ _ ⟨⟩
  exact ⟨due.1, key.publicPem, due.2⟩

theorem job_follows (job : KeyJob) : Follows lib path (DueIdentity lib) k (job.body lib path) := by
  cases job with
  | loadOrGenerate seed =>
      exact Follows.bind _ (follows_loadOrGenerateAt seed) fun _ _ due => due.identity
  | loadExistingOnly => exact Follows.bind _ follows_loadExistingAt fun _ _ due => due.identity
  | readSigningKey => exact Follows.bind _ follows_readSigningKeyAt fun _ _ due => due
  | removePublic =>
      exact Follows.bind _ (follows_reply rfl) fun _ _ _ _ _ none => by cases none
  | chmodKey mode =>
      exact Follows.bind _ (follows_reply rfl) fun _ _ _ _ _ none => by cases none

abbrev KeySound (lib : KeyLibrary K) (path : KeyPath) (pool : KeyPool) : Prop :=
  (keyHost lib path).Sound (fun _ => keyPermits lib path) (fun _ => Ended lib (DueIdentity lib))
    (Paired lib path) (fun _ => KnowsKey lib path) pool

theorem keeps_of_sound {pool : KeyPool} {index : Nat}
    {task : Task KeyJob KeyCall KeyCall.Reply KeyKnown (Except OperatorKeyError KeyIdentity)}
    {call : KeyCall} {next : call.Reply →
      Program KeyCall KeyCall.Reply (Except OperatorKeyError KeyIdentity)} (turn : Turn)
    (found : pool.tasks[index]? = some task) (program : task.program = .call call next)
    (sound : KeySound lib path pool) :
    KeepsKey lib path pool.shared (accessKey turn pool.shared call).2 := by
  obtain ⟨permitted, knows⟩ := sound.acting found program
  exact access_keeps turn sound.inv knows permitted

theorem keyHost_rules (lib : KeyLibrary K) (path : KeyPath) :
    (keyHost lib path).Rules (fun _ _ => True) (fun _ => keyPermits lib path)
      (fun _ => Ended lib (DueIdentity lib)) (Paired lib path) (fun _ => KnowsKey lib path) where
  body := fun job => job_follows job
  start := fun _ _ _ => ⟨nofun, nofun⟩
  reset := fun _ _ _ paired => paired
  inv := fun _ _ turn _ _ _ _ found program sound =>
    (keeps_of_sound turn found program sound).paired
  learned := by
    intro pool index turn task call next _ found program sound
    obtain ⟨permitted, knows⟩ := sound.acting found program
    exact knows.learn turn sound.inv permitted
  stable := fun _ _ turn _ _ _ _ found program sound _ _ _ held =>
    held.keep (keeps_of_sound turn found program sound)

/-- Everyone who got a key got the stored one, and nobody was told that its public file
is stale. -/
structure OneKey (lib : KeyLibrary K) (path : KeyPath) (pool : KeyPool) : Prop where
  agreed : ∀ task ∈ pool.tasks, ∀ pem keyId, task.program = .done (.ok (some (pem, keyId))) →
    Stored path pool.shared pem ∧
      ∃ publicPem, derivePublicPemAndKeyId lib pem = .ok (publicPem, keyId)
  fresh : ∀ task ∈ pool.tasks, ∀ pubPath pubId privId,
    task.program ≠ .done (.error (.stalePublicKey pubPath pubId privId))

/-- Operators agree on one key. However loads and first generations on a machine take
turns, fail and are cut off, and whatever the operator does to the public file and the
modes meanwhile, all that succeed return the key that is stored, which never changes
once it is there. -/
theorem operators_agree_on_one_key (lib : KeyLibrary K) (path : KeyPath) (start : KeyDisk)
    (paired : Paired lib path start) (actions more : List KeyAction) :
    OneKey lib path ((keyRuns lib path).run ⟨start, []⟩ actions) ∧
      ∀ pem, Stored path ((keyRuns lib path).run ⟨start, []⟩ actions).shared pem →
        Stored path ((keyRuns lib path).run ⟨start, []⟩ (actions ++ more)).shared pem := by
  have always := (keyRuns lib path).admits_of_allowed fun _ _ => trivial
  have sound := (keyHost lib path).sound_run (keyHost_rules lib path) ⟨start, []⟩ actions
    (always _ _) ((keyHost lib path).sound_empty paired)
  have known := (keyHost lib path).known_run (keyHost_rules lib path)
    (fun _ _ turn _ _ _ _ found program sound _ _ held =>
      held.keep (keeps_of_sound turn found program sound)) start actions (always _ _) paired
  refine ⟨⟨?_, ?_⟩, ?_⟩
  · intro task member pem keyId ended
    have due := sound.obeys task member
    rw [ended] at due
    obtain ⟨read, derived⟩ := due pem keyId rfl
    exact ⟨((known task member).pem pem read).1, derived⟩
  · intro task member pubPath pubId privId ended
    have failed := sound.obeys task member
    rw [ended] at failed
    obtain ⟨pem, contents, read, beside, apart⟩ := failed _ _ _ rfl
    obtain ⟨other, stored, same⟩ := (known task member).sibling contents beside
    cases stored.unique ((known task member).pem pem read).1
    exact apart same
  · rw [(keyRuns lib path).run_append]
    refine (keyHost lib path).stretch_run (fun _ => True)
      (fun disk later => ∀ pem, Stored path disk pem → Stored path later pem)
      (keyHost_rules lib path) (fun _ _ stored => stored)
      (fun _ _ _ first second pem stored => second pem (first pem stored))
      (fun _ _ _ _ stored => stored) ?_ (always _ _) sound (fun _ _ _ => trivial)
      fun _ _ => trivial
    intro pool index turn task call next _ found program sound _
    exact (keeps_of_sound turn found program sound).stored

def OnTheWay (path ancestor : KeyPath) : Prop :=
  ancestor.absolute = path.absolute ∧ ancestor.isEmpty = false ∧
    ∃ parent, path.parent = some parent ∧ ancestor.names <:+ parent.names

/-- A link on the way to the key, or at its end what is not a file of the owner alone. -/
def Barred (path : KeyPath) (disk : KeyDisk) : Prop :=
  (∃ ancestor target, OnTheWay path ancestor ∧ disk ancestor = some (.symlink target)) ∨
    ∃ node, disk path = some node ∧ (sortOpened path node.opened).isOk = false

/-- The disk stays as it is, whatever the calls do. -/
abbrev Untouched {α : Type} (disk : KeyDisk) (post : Except OperatorKeyError α → Prop)
    (program : Keying α) : Prop :=
  program.run.Safe accessKey (fun _ => True) (· = disk) (fun outcome _ => post outcome) disk

theorem Untouched.bind {α β : Type} (post : Except OperatorKeyError α → Prop)
    {post' : Except OperatorKeyError β → Prop} {program : Keying α} {f : α → Keying β}
    (first : Untouched disk post program) (fails : ∀ e, post (.error e) → post' (.error e))
    (rest : ∀ a, post (.ok a) → Untouched disk post' (f a)) :
    Untouched disk post' (program >>= f) := by
  refine Program.Safe.andThen (fun outcome _ => post outcome) first (fun e _ _ => fails e) ?_
  rintro a later rfl reached
  exact rest a reached

theorem untouched_checkAncestor (ancestor : KeyPath) :
    Untouched disk (fun outcome => outcome.isOk = true →
      ∀ target, disk ancestor ≠ some (.symlink target)) (checkAncestor path ancestor) := by
  refine Program.Safe.ask rfl (fun _ _ => rfl) ?_
  intro turn _ passed target linked
  cases turn with
  | done =>
      simp only [accessKey, gives, KeyDisk.found, linked] at passed
      cases passed
  | failed effective => cases passed

theorem untouched_refuseSymlinkFrom (names : List String) :
    Untouched disk (fun outcome => outcome.isOk = true → ∀ ancestor : KeyPath,
      ancestor.absolute = path.absolute → ancestor.isEmpty = false → ancestor.names <:+ names →
        ∀ target, disk ancestor ≠ some (.symlink target)) (refuseSymlinkFrom path names) := by
  induction names with
  | nil =>
      have root : ∀ ancestor : KeyPath, ancestor.names <:+ [] →
          ancestor = ⟨ancestor.absolute, []⟩ := by
        intro ancestor suffix
        rw [← List.suffix_nil.mp suffix]
      unfold refuseSymlinkFrom
      split
      · rename_i absolute
        refine Program.Safe.mono (untouched_checkAncestor ⟨true, []⟩) (fun _ => id) ?_
        intro outcome _ _ checked passed ancestor same _ suffix
        rw [root ancestor suffix, same, absolute]
        exact checked passed
      · rename_i relative
        refine ⟨rfl, fun _ ancestor same present suffix => ?_⟩
        rw [root ancestor suffix, same, eq_false_of_ne_true relative] at present
        cases present
  | cons name rest ih =>
      refine Untouched.bind _ (untouched_checkAncestor ⟨path.absolute, name :: rest⟩)
        (fun _ _ passed => by cases passed) fun _ clear => ?_
      refine Program.Safe.mono ih (fun _ => id) ?_
      intro outcome _ _ later passed ancestor same present suffix
      rcases List.suffix_cons_iff.mp suffix with whole | shorter
      · have here : ancestor = ⟨path.absolute, name :: rest⟩ := by rw [← same, ← whole]
        rw [here]
        exact clear rfl
      · exact later passed ancestor same present shorter

/-- Whoever gets past the walk has met no link. -/
theorem untouched_refuseSymlinkInAncestors :
    Untouched disk (fun outcome => outcome.isOk = true → ∀ ancestor, OnTheWay path ancestor →
      ∀ target, disk ancestor ≠ some (.symlink target)) (refuseSymlinkInAncestors path) := by
  unfold refuseSymlinkInAncestors
  split
  · rename_i top
    refine ⟨rfl, ?_⟩
    rintro _ ancestor ⟨_, _, parent, below, _⟩
    rw [top] at below
    cases below
  · rename_i parent below
    refine Program.Safe.mono (untouched_refuseSymlinkFrom parent.names) (fun _ => id) ?_
    rintro outcome _ _ clear passed ancestor ⟨same, present, _, again, suffix⟩
    cases below.symm.trans again
    exact clear passed ancestor same present suffix

theorem opened_barred {node : Node} (turn : Turn) (present : disk path = some node)
    (barred : (sortOpened path node.opened).isOk = false) :
    ∃ e, sortOpened path (accessKey turn disk (.openNoFollow path)).1 = .error e ∧
      e ≠ .io .notFound := by
  cases turn with
  | failed effective => exact ⟨_, rfl, nofun⟩
  | done =>
      simp only [accessKey, gives, KeyDisk.found, present]
      cases node with
      | regular mode contents =>
          by_cases exposed : (mode &&& 0o777) &&& 0o077 ≠ 0
          · exact ⟨_, if_pos exposed, nofun⟩
          · have passed : sortOpened path (.ok (.regular mode contents)) = .ok contents :=
              if_neg exposed
            simp only [Node.opened, passed] at barred
            cases barred
      | _ => exact ⟨_, rfl, nofun⟩

abbrev Refused {α : Type} (disk : KeyDisk) (program : Keying α) : Prop :=
  Untouched disk (fun outcome => outcome.isOk = false) program

theorem Refused.bind {α β : Type} {program : Keying α} {f : α → Keying β}
    (first : Refused disk program) : Refused disk (program >>= f) :=
  Untouched.bind _ first (fun _ _ => rfl) fun _ passed => by cases passed

theorem refused_walk {β : Type} {f : PUnit → Keying β} (barred : Barred path disk)
    (rest : ∀ node, disk path = some node → (sortOpened path node.opened).isOk = false →
      Refused disk (f ⟨⟩)) : Refused disk (refuseSymlinkInAncestors path >>= f) := by
  refine Untouched.bind _ untouched_refuseSymlinkInAncestors (fun _ _ => rfl) fun _ clear => ?_
  rcases barred with ⟨ancestor, target, way, linked⟩ | ⟨node, present, refused⟩
  · exact absurd linked (clear rfl ancestor way target)
  · exact rest node present refused

theorem refused_read {node : Node} (present : disk path = some node)
    (refused : (sortOpened path node.opened).isOk = false) :
    Refused disk (readExistingSecurely path) := by
  refine Program.Safe.ask rfl (fun _ _ => rfl) fun turn _ => ?_
  obtain ⟨e, failed, _⟩ := opened_barred turn present refused
  rw [failed]
  rfl

theorem refused_loadOrGenerateAt (barred : Barred path disk) (seed : Except String (BitVec 256)) :
    Refused disk (loadOrGenerateAt lib path seed) := by
  refine refused_walk barred fun node present refused => ?_
  refine Untouched.bind (fun outcome => ∀ opened, outcome = .ok opened →
    ∃ e, sortOpened path opened = .error e ∧ e ≠ .io .notFound) ?_ (fun _ _ => rfl) ?_
  · refine Program.Safe.ask rfl (fun _ _ => rfl) fun turn _ => ?_
    rintro _ ⟨⟩
    exact opened_barred turn present refused
  · intro opened sorted
    obtain ⟨e, failed, exists_⟩ := sorted opened rfl
    rw [failed]
    cases e with
    | io kind =>
        cases kind with
        | notFound => exact absurd rfl exists_
        | _ => exact ⟨rfl, rfl⟩
    | _ => exact ⟨rfl, rfl⟩

def KeyJob.wantsKey : KeyJob → Prop
  | .loadOrGenerate _ => True
  | .loadExistingOnly => True
  | .readSigningKey => True
  | _ => False

theorem job_refused {job : KeyJob} (barred : Barred path disk) (wants : job.wantsKey) :
    Refused disk (job.body lib path) := by
  cases job with
  | loadOrGenerate seed => exact (refused_loadOrGenerateAt barred seed).bind
  | loadExistingOnly =>
      exact (refused_walk barred fun _ present refused => (refused_read present refused).bind).bind
  | readSigningKey =>
      exact (refused_walk barred fun _ present refused => (refused_read present refused).bind).bind
  | removePublic => exact wants.elim
  | chmodKey mode => exact wants.elim

/-- A barred key is refused. With a link among the directories of the key, or a key that
others may read or that is no file, every load and every generation fails, however they
take turns, and nothing is written. -/
theorem barred_key_is_refused (lib : KeyLibrary K) (path : KeyPath) (start : KeyDisk)
    (barred : Barred path start) (actions : List KeyAction)
    (wants : ∀ job, .arrive job ∈ actions → job.wantsKey) :
    ((keyRuns lib path).run ⟨start, []⟩ actions).shared = start ∧
      ∀ task ∈ ((keyRuns lib path).run ⟨start, []⟩ actions).tasks, ∀ identity,
        task.program ≠ .done (.ok identity) := by
  obtain ⟨same, held⟩ := (keyHost lib path).untouched_run (fun _ => rfl) actions
    (fun job arrived => job_refused barred (wants job arrived)) ⟨start, []⟩ rfl nofun
  refine ⟨same, fun task member identity ended => ?_⟩
  have failed := held task member
  rw [ended] at failed
  cases failed.2

end

def plainKeys : KeyLibrary String where
  fromBytes := fun seed => toString seed.toNat
  toPkcs8Pem := .ok
  fromPkcs8Pem := .ok
  toPublicKeyPem := fun key => .ok ("pub " ++ key)
  keyIdForPublicKeyPem := fun pem => .ok ("id " ++ pem)
  fromPkcs8Pem_toPkcs8Pem := fun _ _ encoded => encoded.symm ▸ rfl

def demoKeyPath : KeyPath := ⟨true, ["key.pem", "operator"]⟩

def emptyDisk : KeyDisk := fun path => if path.names = [] then some .directory else none

def inTurns (count : Nat) : List KeyAction :=
  (List.replicate count [.advance 0 .done, .advance 1 .done]).flatten

/-- Two generations race from the start. Then the public file is deleted, and a load
writes it again. -/
def keyRace : List KeyAction :=
  [.arrive (.loadOrGenerate (.ok 7)), .arrive (.loadOrGenerate (.ok 8))] ++ inTurns 8

def keyReload : List KeyAction :=
  [.arrive .removePublic, .advance 2 .done, .arrive .loadExistingOnly] ++
    List.replicate 6 (.advance 3 .done)

theorem emptyDisk_paired : Paired plainKeys demoKeyPath emptyDisk where
  key := .inl rfl
  sibling := fun _ present => by
    rw [show emptyDisk (publicSibling demoKeyPath) = none from rfl] at present
    cases present

theorem operators_agree_on_one_key_of_race :
    OneKey plainKeys demoKeyPath
      ((keyRuns plainKeys demoKeyPath).run ⟨emptyDisk, []⟩ (keyRace ++ keyReload)) ∧
    ((keyRuns plainKeys demoKeyPath).run ⟨emptyDisk, []⟩ (keyRace ++ keyReload)).tasks.map
      (fun task => task.program.outcome?.bind Except.toOption) =
      [some (some ("7", "id pub 7")), some (some ("7", "id pub 7")), some none,
        some (some ("7", "id pub 7"))] := by
  refine ⟨(operators_agree_on_one_key plainKeys demoKeyPath emptyDisk emptyDisk_paired
    (keyRace ++ keyReload) []).1, ?_⟩
  decide

def linkedDisk : KeyDisk :=
  Function.update emptyDisk ⟨true, ["operator"]⟩ (some (.symlink none))

theorem barred_key_is_refused_of_link :
    ((keyRuns plainKeys demoKeyPath).run ⟨linkedDisk, []⟩ keyRace).shared = linkedDisk ∧
      ∀ task ∈ ((keyRuns plainKeys demoKeyPath).run ⟨linkedDisk, []⟩ keyRace).tasks, ∀ identity,
        task.program ≠ .done (.ok identity) := by
  refine barred_key_is_refused plainKeys demoKeyPath linkedDisk ?_ keyRace ?_
  · exact .inl ⟨⟨true, ["operator"]⟩, none, ⟨rfl, rfl, _, rfl, List.suffix_refl _⟩, rfl⟩
  · intro job arrived
    have raced : job = .loadOrGenerate (.ok 7) ∨ job = .loadOrGenerate (.ok 8) := by
      simpa [keyRace, inTurns] using arrived
    rcases raced with rfl | rfl <;> exact trivial

end GreenticDeployer.Trust
