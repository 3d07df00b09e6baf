import GreenticDeployer.Lib.Words
import GreenticDeployer.Engine.Uniqueness

/-!
# Idempotency stamps

A messaging mutation leaves `<by>#idem=<op>:<key>` in `updated_by`, and a retry
is recognised by that ending. Neither the caller's name nor the key is escaped,
so a stamp can end in another one: this module says exactly when.
-/

set_option maxHeartbeats 200000

namespace GreenticDeployer.Engine

open Spec Lib

inductive MessagingOp where
  | add
  | linkBundle
  | unlinkBundle
  | setWelcomeFlow
  | rotateWebhookSecret
  deriving DecidableEq

def MessagingOp.name : MessagingOp → String
  | .add => opAdd
  | .linkBundle => opLinkBundle
  | .unlinkBundle => opUnlinkBundle
  | .setWelcomeFlow => opSetWelcomeFlow
  | .rotateWebhookSecret => opRotateWebhookSecret

/-- The stamp of one operation and key is unambiguous against another: an
endpoint last stamped with the first is recognised as carrying the second just
when they are the same, and the two verbs that look for a stamp report a replay
only then. -/
structure Unambiguous (writer : String) (op : MessagingOp) (key : IdempotencyKey)
    (asked : MessagingOp) (retry : IdempotencyKey) : Prop where
  recognised : ∀ endpoint : MessagingEndpoint,
    endpoint.updatedBy = formatIdemWriter writer op.name key.asStr →
    (carriesIdemKey endpoint (idemSuffix asked.name retry.asStr) = true ↔
      op = asked ∧ key = retry)
  added : asked = .add → ∀ ext env payload endpointId now provision index endpoint,
    (addMessagingEndpoint ext env payload endpointId retry now provision).1 = .ok ⟨index, false⟩ →
    env.messagingEndpoints[index]? = some endpoint →
    endpoint.updatedBy = formatIdemWriter writer op.name key.asStr → op = .add ∧ key = retry
  rotated : asked = .rotateWebhookSecret →
    ∀ ext env endpointId updatedBy now newRef provision index endpoint,
    (rotateMessagingWebhookSecret ext env endpointId updatedBy retry now newRef provision).1 =
      .ok ⟨index, false⟩ →
    env.messagingEndpoints[index]? = some endpoint →
    endpoint.updatedBy = formatIdemWriter writer op.name key.asStr →
    op = .rotateWebhookSecret ∧ key = retry

/-- The first key does not end in the second stamp, and the second key with the
caller's name does not continue one stamp into the other. -/
def StampsApart (writer : String) (op : MessagingOp) (key : IdempotencyKey)
    (asked : MessagingOp) (retry : IdempotencyKey) : Prop :=
  ¬ (idemSuffix asked.name retry.asStr).toList <:+ key.asStr.toList ∧
    ¬ ∃ lead : String, retry.asStr = lead ++ idemSuffix op.name key.asStr ∧
      (idemSuffix asked.name lead).toList <:+ writer.toList

/-- What stands between the mark of a stamp and its key. -/
def MessagingOp.label (op : MessagingOp) : List Char := "idem=".toList ++ op.name.toList ++ [':']

theorem idemSuffix_toList (op : MessagingOp) (key : String) :
    (idemSuffix op.name key).toList = '#' :: (op.label ++ key.toList) := by
  have marked : "#idem=".toList = '#' :: "idem=".toList := by decide
  have separator : ":".toList = [':'] := by decide
  have joined : ∀ mark name colon : String, (mark ++ name ++ colon ++ key).toList =
      mark.toList ++ name.toList ++ colon.toList ++ key.toList := by
    intro mark name colon
    simp only [String.toList_append]
  calc
    (idemSuffix op.name key).toList =
        "#idem=".toList ++ op.name.toList ++ ":".toList ++ key.toList := joined ..
    _ = ('#' :: "idem=".toList) ++ op.name.toList ++ [':'] ++ key.toList :=
      congrArg₂ (fun mark colon => mark ++ op.name.toList ++ colon ++ key.toList) marked separator
    _ = '#' :: (op.label ++ key.toList) := rfl

theorem formatIdemWriter_toList (writer : String) (op : MessagingOp) (key : String) :
    (formatIdemWriter writer op.name key).toList =
      writer.toList ++ (idemSuffix op.name key).toList := by
  simp [formatIdemWriter, idemSuffix]

theorem MessagingOp.label_unmarked (op : MessagingOp) : '#' ∉ op.label := by
  cases op <;> decide

theorem MessagingOp.name_unseparated (op : MessagingOp) :
    ':' ∉ "idem=".toList ++ op.name.toList := by
  cases op <;> decide

theorem MessagingOp.name_injective {op other : MessagingOp} (same : op.name = other.name) :
    op = other := by
  revert same
  cases op <;> cases other <;> decide

theorem label_append_inj {op other : MessagingOp} {tail rest : List Char}
    (same : op.label ++ tail = other.label ++ rest) : op = other ∧ tail = rest := by
  have separated : ∀ (op : MessagingOp) (tail : List Char),
      op.label ++ tail = ("idem=".toList ++ op.name.toList) ++ ':' :: tail :=
    fun op tail => List.append_assoc _ [':'] tail
  rw [separated, separated] at same
  obtain ⟨heads, tails⟩ :=
    split_at_separator op.name_unseparated other.name_unseparated same
  exact ⟨MessagingOp.name_injective (String.toList_inj.mp (List.append_cancel_left heads)), tails⟩

theorem IdempotencyKey.eq_of_toList {key other : IdempotencyKey}
    (same : key.asStr.toList = other.asStr.toList) : key = other := by
  obtain ⟨text, nonblank⟩ := key
  obtain ⟨word, filled⟩ := other
  cases String.toList_inj.mp same
  rfl

theorem spanning_stamp {op asked : MessagingOp} {key retry : String} {first : Char}
    {lead : List Char}
    (whole : (idemSuffix asked.name retry).toList =
      (first :: lead) ++ (idemSuffix op.name key).toList) :
    ∃ word : String, retry = word ++ idemSuffix op.name key ∧
      first :: lead = (idemSuffix asked.name word).toList := by
  rw [idemSuffix_toList asked, List.cons_append] at whole
  injection whole with mark whole
  have behind : ∃ word, lead = asked.label ++ word ∧
      retry.toList = word ++ (idemSuffix op.name key).toList := by
    rcases List.append_eq_append_iff.mp whole with ⟨word, reaches, rest⟩ | ⟨early, label, rest⟩
    · exact ⟨word, reaches, rest⟩
    · cases early with
      | nil => exact ⟨[], by simpa using label.symm, rest.symm⟩
      | cons start more =>
          -- The mark of the inner stamp would lie in the label of the outer one.
          rw [idemSuffix_toList, List.cons_append] at rest
          injection rest with same
          rw [← same] at label
          refine absurd ?_ asked.label_unmarked
          rw [label]
          exact List.mem_append_right _ (List.mem_cons_self ..)
  obtain ⟨word, reaches, rest⟩ := behind
  refine ⟨String.ofList word, ?_, ?_⟩
  · apply String.toList_inj.mp
    rw [rest, String.toList_append, String.toList_ofList]
  · rw [idemSuffix_toList, String.toList_ofList, reaches, mark]

/-- When a stamped name ends in a stamp: the same one, one inside the key, or one
that starts in the caller's name. -/
theorem carries_iff (writer : String) (op : MessagingOp) (key : IdempotencyKey)
    (asked : MessagingOp) (retry : IdempotencyKey) {endpoint : MessagingEndpoint}
    (stamped : endpoint.updatedBy = formatIdemWriter writer op.name key.asStr) :
    carriesIdemKey endpoint (idemSuffix asked.name retry.asStr) = true ↔
      (op = asked ∧ key = retry) ∨
      (idemSuffix asked.name retry.asStr).toList <:+ key.asStr.toList ∨
      ∃ lead : String, retry.asStr = lead ++ idemSuffix op.name key.asStr ∧
        (idemSuffix asked.name lead).toList <:+ writer.toList := by
  have within : (idemSuffix asked.name retry.asStr).toList <:+
      (idemSuffix op.name key.asStr).toList ↔
      (op = asked ∧ key = retry) ∨
        (idemSuffix asked.name retry.asStr).toList <:+ key.asStr.toList := by
    rw [idemSuffix_toList op, idemSuffix_toList asked, marked_suffix op.label_unmarked]
    refine or_congr_left ⟨?_, ?_⟩
    · intro same
      obtain ⟨ops, keys⟩ := label_append_inj same
      exact ⟨ops.symm, IdempotencyKey.eq_of_toList keys.symm⟩
    · rintro ⟨rfl, rfl⟩
      rfl
  rw [carriesIdemKey, List.isSuffixOf_iff_suffix, stamped, formatIdemWriter_toList,
    suffix_append_cases, ← or_assoc, ← within]
  constructor
  · rintro (inside | ⟨lead, whole, inside⟩)
    · exact .inl inside
    · cases lead with
      | nil =>
          rw [whole]
          exact .inl (List.suffix_refl _)
      | cons first rest =>
          obtain ⟨word, keys, lead⟩ := spanning_stamp whole
          exact .inr ⟨word, keys, lead ▸ inside⟩
  · rintro (inside | ⟨word, keys, inside⟩)
    · exact .inl inside
    · refine .inr ⟨(idemSuffix asked.name word).toList, ?_, inside⟩
      rw [keys]
      simp [idemSuffix]

theorem stampsApart_of_same {writer : String} {op asked : MessagingOp}
    {key retry : IdempotencyKey} (same : op = asked ∧ key = retry) :
    StampsApart writer op key asked retry := by
  obtain ⟨rfl, rfl⟩ := same
  have longer : key.asStr.toList.length < (idemSuffix op.name key.asStr).toList.length := by
    rw [idemSuffix_toList, List.length_cons, List.length_append]
    omega
  constructor
  · intro inside
    have shorter := inside.length_le
    omega
  · rintro ⟨lead, keys, -⟩
    have lengths := congrArg (fun text : String => text.toList.length) keys
    simp only [String.toList_append, List.length_append] at lengths
    omega

theorem add_replay_carries {ext : Externals} {env : Environment}
    {payload : AddMessagingEndpointPayload} {endpointId : MessagingEndpointId}
    {key : IdempotencyKey} {now : DateTime} {provision : Provision} {index : Nat}
    {endpoint : MessagingEndpoint}
    (replayed : (addMessagingEndpoint ext env payload endpointId key now provision).1 =
      .ok ⟨index, false⟩)
    (indexed : env.messagingEndpoints[index]? = some endpoint) :
    carriesIdemKey endpoint (idemSuffix opAdd key.asStr) = true := by
  simp only [addMessagingEndpoint] at replayed
  split at replayed
  · rename_i found located
    split at replayed
    · cases replayed
      cases (Located.getElem?_index located).symm.trans indexed
      exact (locate_eq_some located).2.1
    · cases replayed
  · repeat' split at replayed
    all_goals cases replayed

theorem rotate_replay_carries {ext : Externals} {env : Environment}
    {endpointId : MessagingEndpointId} {updatedBy : String} {key : IdempotencyKey}
    {now : DateTime} {newRef : Option String} {provision : Provision} {index : Nat}
    {endpoint : MessagingEndpoint}
    (replayed : (rotateMessagingWebhookSecret ext env endpointId updatedBy key now newRef
      provision).1 = .ok ⟨index, false⟩)
    (indexed : env.messagingEndpoints[index]? = some endpoint) :
    carriesIdemKey endpoint (idemSuffix opRotateWebhookSecret key.asStr) = true := by
  simp only [rotateMessagingWebhookSecret] at replayed
  split at replayed
  · cases replayed
  rename_i found searched
  split at replayed
  · rename_i carries
    cases replayed
    cases (Located.getElem?_index (findEndpointIdx_ok searched)).symm.trans indexed
    exact carries
  · split at replayed
    · cases replayed
    · cases replayed

/-- Stamps are unambiguous exactly when they are apart. -/
theorem stamps_unambiguous (writer : String) (op : MessagingOp) (key : IdempotencyKey)
    (asked : MessagingOp) (retry : IdempotencyKey) :
    Unambiguous writer op key asked retry ↔ StampsApart writer op key asked retry := by
  constructor
  · intro unambiguous
    by_cases same : op = asked ∧ key = retry
    · exact stampsApart_of_same same
    let endpoint : MessagingEndpoint := {
      schema := ⟨SchemaVersion.messagingEndpointV1⟩
      envId := ⟨"local"⟩
      endpointId := ⟨0⟩
      providerId := ""
      providerType := ""
      displayName := ""
      secretRefs := []
      webhookSecretRef := none
      linkedBundles := []
      welcomeFlow := none
      generation := 0
      createdAt := 0
      updatedAt := 0
      updatedBy := formatIdemWriter writer op.name key.asStr }
    have recognised := unambiguous.recognised endpoint rfl
    rw [carries_iff writer op key asked retry rfl] at recognised
    constructor
    · intro inside
      exact same (recognised.mp (.inr (.inl inside)))
    · intro spans
      exact same (recognised.mp (.inr (.inr spans)))
  · rintro ⟨outside, apart⟩
    have recognised : ∀ endpoint : MessagingEndpoint,
        endpoint.updatedBy = formatIdemWriter writer op.name key.asStr →
        (carriesIdemKey endpoint (idemSuffix asked.name retry.asStr) = true ↔
          op = asked ∧ key = retry) := by
      intro endpoint stamped
      rw [carries_iff writer op key asked retry stamped, or_iff_left]
      rintro (inside | spans)
      · exact outside inside
      · exact apart spans
    refine ⟨recognised, ?_, ?_⟩
    · rintro rfl ext env payload endpointId now provision index endpoint replayed indexed stamped
      exact (recognised endpoint stamped).mp (add_replay_carries replayed indexed)
    · rintro rfl ext env endpointId updatedBy now newRef provision index endpoint replayed indexed
        stamped
      exact (recognised endpoint stamped).mp (rotate_replay_carries replayed indexed)

def craftedKey : IdempotencyKey := ⟨"x#idem=rotate-webhook-secret:k1", by decide⟩

def hookAt (uri : String) : Provision := fun _ => .ok ⟨uri⟩

/-- A telegram endpoint is added and linked under the crafted key. -/
def craftedRun : List Verb :=
  [.addBundle demoBundle ⟨1⟩ 0 "policy.json",
    .addMessagingEndpoint ⟨"bot", "telegram", "Bot", [], none, "op"⟩ ⟨9⟩ secondKey 2
      (hookAt "secret://local/first"),
    .linkMessagingBundle ⟨9⟩ ⟨"demo"⟩ "op" craftedKey 3]

/-- The first rotation of that endpoint reports a replay and rotates nothing. -/
theorem crafted_key_replays_rotation :
    (rotateMessagingWebhookSecret noExternals
      ((engine firstSplitJson noExternals).run localFresh craftedRun) ⟨9⟩ "op" firstKey 4 none
      (hookAt "secret://local/second")).1 = .ok ⟨0, false⟩ ∧
    ¬ Unambiguous "op" .linkBundle craftedKey .rotateWebhookSecret firstKey := by
  have replayed : (rotateMessagingWebhookSecret noExternals
      ((engine firstSplitJson noExternals).run localFresh craftedRun) ⟨9⟩ "op" firstKey 4 none
      (hookAt "secret://local/second")).1 = .ok ⟨0, false⟩ := by decide
  refine ⟨replayed, ?_⟩
  intro unambiguous
  have stamp : (((engine firstSplitJson noExternals).run localFresh
      craftedRun).messagingEndpoints[0]?.map (·.updatedBy)) =
      some (formatIdemWriter "op" opLinkBundle craftedKey.asStr) := by decide
  obtain ⟨endpoint, indexed, stamped⟩ := Option.map_eq_some_iff.mp stamp
  have same := unambiguous.rotated rfl _ _ _ _ _ _ _ _ _ replayed indexed stamped
  exact absurd same.1 (by decide)

end GreenticDeployer.Engine
