import GreenticDeployer.Lib.Words
import GreenticDeployer.Trust.RevenuePolicy

/-!
# The names of policy versions

A version's number is read back from the reference it was given, and documents
and sidecars of different versions, customers or bundles never share a path.
-/

set_option maxHeartbeats 200000

namespace GreenticDeployer.Trust

open Spec Lib

def docRef (bundleId : BundleId) (customerId : CustomerId) (version : Nat) : PathBuf :=
  policyDir bundleId customerId ++ "/" ++ documentName version

theorem toString_toList (n : Nat) : (toString n).toList = Nat.toDigits 10 n := Nat.toList_repr

theorem isDigit_of_mem {n : Nat} {c : Char} (member : c ∈ (toString n).toList) :
    c.isDigit = true := by
  rw [toString_toList] at member
  exact Nat.isDigit_of_mem_toDigits (by decide) (by decide) member

theorem toString_injective {left right : Nat} (same : (toString left).toList = (toString right).toList) :
    left = right := by
  rw [toString_toList, toString_toList] at same
  calc left = Nat.ofDigitChars 10 (Nat.toDigits 10 left) 0 := by simp
    _ = Nat.ofDigitChars 10 (Nat.toDigits 10 right) 0 := by rw [same]
    _ = right := by simp

theorem foldl_digits (digits : List Char) (start : Nat) :
    digits.foldl (fun n c => n * 10 + (c.toNat - '0'.toNat)) start =
      Nat.ofDigitChars 10 digits start := by
  rw [Nat.ofDigitChars_eq_foldl]
  congr 1
  funext n c
  rw [Nat.mul_comm]

theorem parseU64_digits {text : List Char} (some_ : text ≠ [])
    (digits : ∀ c ∈ text, c.isDigit = true) (small : Nat.ofDigitChars 10 text 0 < 2 ^ 64) :
    parseU64 text = some (Nat.ofDigitChars 10 text 0) := by
  have checked : ¬ (text = [] ∨ (text.any fun c => !c.isDigit) = true) := by
    rintro (empty | stray)
    · exact some_ empty
    · obtain ⟨c, member, wrong⟩ := List.any_eq_true.mp stray
      rw [digits c member] at wrong
      cases wrong
  unfold parseU64
  dsimp only
  split
  · have sign := digits '+' List.mem_cons_self
    cases sign
  · rw [if_neg checked, foldl_digits, if_pos small]

theorem parseU64_toString {n : Nat} (small : n < 2 ^ 64) :
    parseU64 (toString n).toList = some n := by
  have value : Nat.ofDigitChars 10 (toString n).toList 0 = n := by
    rw [toString_toList, Nat.ofDigitChars_ten_toDigits]
  have some_ : (toString n).toList ≠ [] := by
    rw [toString_toList]
    exact Nat.toDigits_ne_nil
  rw [parseU64_digits some_ (fun c => isDigit_of_mem) (value.symm ▸ small), value]

theorem stripSuffix_append (text suffix : List Char) :
    stripSuffix suffix (text ++ suffix) = some text := by
  unfold stripSuffix
  rw [if_pos (List.suffix_append text suffix)]
  simp

/-- The last component of a path. -/
theorem fileName_append (dir : String) {name : List Char} (plain : '/' ∉ name) (some_ : name ≠ [])
    (here : name ≠ ['.']) (above : name ≠ ['.', '.']) :
    fileName (dir ++ "/" ++ String.ofList name) = some name := by
  have parts : ((dir ++ "/" ++ String.ofList name).toList.splitOn '/') =
      dir.toList.splitOn '/' ++ [name] := by
    have whole : (dir ++ "/" ++ String.ofList name).toList = dir.toList ++ '/' :: name := by
      simp [String.toList_append]
    rw [whole, List.splitOn_append_cons_self, List.splitOn_eq_singleton plain]
  unfold fileName
  simp only [parts, List.filter_append]
  have kept : [name].filter (fun part => decide (part ≠ [] ∧ part ≠ ['.'])) = [name] := by
    simp [some_, here]
  rw [kept, List.getLast?_append]
  simp [above]

theorem sidecarName_toList (n : Nat) :
    (sidecarName n).toList = 'v' :: ((toString n).toList ++ ".json.sig".toList) := by
  simp [sidecarName, String.toList_append]

theorem documentName_toList (n : Nat) :
    (documentName n).toList = 'v' :: ((toString n).toList ++ ".json".toList) := by
  simp [documentName, String.toList_append]

theorem slash_not_mem_sidecarName (n : Nat) : '/' ∉ (sidecarName n).toList := by
  rw [sidecarName_toList]
  intro member
  rcases List.mem_cons.mp member with wrong | later
  · cases wrong
  · rcases List.mem_append.mp later with digit | suffix
    · have wrong := isDigit_of_mem digit
      cases wrong
    · revert suffix
      decide

/-- The number a reference was made with is the number read from it. -/
theorem parseSidecarVersion_sidecarRef (bundleId : BundleId) (customerId : CustomerId) {n : Nat}
    (positive : 1 ≤ n) (small : n < 2 ^ 64) :
    parseSidecarVersion (sidecarRef bundleId customerId n) = some n := by
  have named : fileName (sidecarRef bundleId customerId n) = some (sidecarName n).toList := by
    have last := fileName_append (policyDir bundleId customerId) (slash_not_mem_sidecarName n)
      (by simp [sidecarName_toList]) (by simp [sidecarName_toList]) (by simp [sidecarName_toList])
    rw [String.ofList_toList] at last
    exact last
  unfold parseSidecarVersion
  rw [named, sidecarName_toList]
  simp only [stripSuffix_append, Option.bind_some, parseU64_toString small, if_pos positive]

/-- Ids that are one path component each. -/
structure SafeIds (bundleId : BundleId) (customerId : CustomerId) : Prop where
  bundle : '/' ∉ bundleId.asStr.toList
  customer : '/' ∉ customerId.asStr.toList

theorem slash_not_mem_of_safeSegment {segment checked : String}
    (safe : safeSegment segment = .ok checked) : '/' ∉ segment.toList := by
  unfold safeSegment at safe
  split at safe
  · cases safe
  · rename_i clean
    intro member
    exact clean (.inr (.inr (.inr (.inl member))))

variable {bundleId otherBundle : BundleId} {customerId otherCustomer : CustomerId}

theorem policyDir_injective {left right : String} (safe : SafeIds bundleId customerId)
    (clean : SafeIds otherBundle otherCustomer)
    (same : policyDir bundleId customerId ++ "/" ++ left =
      policyDir otherBundle otherCustomer ++ "/" ++ right) :
    bundleId = otherBundle ∧ customerId = otherCustomer ∧ left = right := by
  have whole : ∀ (b : BundleId) (c : CustomerId) (name : String),
      (policyDir b c ++ "/" ++ name).toList =
        (billingDir ++ "/").toList ++ (b.asStr.toList ++ '/' :: (c.asStr.toList ++ '/' :: name.toList)) := by
    intro b c name
    simp [policyDir, String.toList_append]
  have lists := congrArg String.toList same
  rw [whole, whole] at lists
  obtain ⟨bundles, rest⟩ := split_at_separator safe.bundle clean.bundle
    (List.append_cancel_left lists)
  obtain ⟨customers, names⟩ := split_at_separator safe.customer clean.customer rest
  refine ⟨?_, ?_, String.toList_inj.mp names⟩
  · cases bundleId
    cases otherBundle
    exact congrArg BundleId.mk (String.toList_inj.mp bundles)
  · cases customerId
    cases otherCustomer
    exact congrArg CustomerId.mk (String.toList_inj.mp customers)

theorem docRef_injective {left right : Nat} (safe : SafeIds bundleId customerId)
    (clean : SafeIds otherBundle otherCustomer)
    (same : docRef bundleId customerId left = docRef otherBundle otherCustomer right) :
    bundleId = otherBundle ∧ customerId = otherCustomer ∧ left = right := by
  obtain ⟨bundles, customers, names⟩ := policyDir_injective safe clean same
  have lists := congrArg String.toList names
  rw [documentName_toList, documentName_toList, List.cons.injEq] at lists
  exact ⟨bundles, customers, toString_injective (List.append_cancel_right lists.2)⟩

theorem sidecarRef_eq (bundleId : BundleId) (customerId : CustomerId) (version : Nat) :
    sidecarRef bundleId customerId version = docRef bundleId customerId version ++ ".sig" := by
  apply String.toList_inj.mp
  simp [sidecarRef, docRef, sidecarName, documentName, String.toList_append]

theorem sidecarRef_injective {left right : Nat} (safe : SafeIds bundleId customerId)
    (clean : SafeIds otherBundle otherCustomer)
    (same : sidecarRef bundleId customerId left = sidecarRef otherBundle otherCustomer right) :
    bundleId = otherBundle ∧ customerId = otherCustomer ∧ left = right := by
  rw [sidecarRef_eq, sidecarRef_eq] at same
  exact docRef_injective safe clean ((String.append_left_inj _).mp same)

theorem docRef_ne_sidecarRef (left right : Nat) :
    docRef bundleId customerId left ≠ sidecarRef otherBundle otherCustomer right := by
  intro same
  have lists := congrArg (fun path : String => path.toList.getLast?) same
  simp only [docRef, sidecarRef, String.toList_append, List.getLast?_append, documentName_toList,
    sidecarName_toList] at lists
  have ends : ∀ n : Nat, ('v' :: ((toString n).toList ++ ".json".toList)).getLast? = some 'n' := by
    intro n
    rw [← List.cons_append, List.getLast?_append]
    rfl
  have sidecarEnds : ∀ n : Nat,
      ('v' :: ((toString n).toList ++ ".json.sig".toList)).getLast? = some 'g' := by
    intro n
    rw [← List.cons_append, List.getLast?_append]
    rfl
  rw [ends, sidecarEnds] at lists
  cases lists

theorem buildRevenuePolicyVersion_safe {signing : Signing} {deployment : BundleDeployment}
    {revenueShare : List RevenueShareEntry} {createdAt : DateTime} {operatorKey : OperatorKey}
    {trustRoot : TrustRoot} {built : BuiltRevenuePolicyVersion}
    (returned : buildRevenuePolicyVersion signing deployment revenueShare createdAt operatorKey
      trustRoot = .ok built) :
    SafeIds deployment.bundleId deployment.customerId ∧
      built.docRef = docRef deployment.bundleId deployment.customerId built.version ∧
      built.doc = policyDocument deployment revenueShare createdAt built.version := by
  unfold buildRevenuePolicyVersion at returned
  obtain ⟨_, _, returned⟩ := bind_ok returned
  obtain ⟨_, bundle, returned⟩ := bind_ok returned
  obtain ⟨_, customer, returned⟩ := bind_ok returned
  obtain ⟨version, _, returned⟩ := bind_ok returned
  dsimp only at returned
  split at returned
  · cases returned
  · obtain ⟨_, _, returned⟩ := bind_ok returned
    obtain ⟨_, _, returned⟩ := bind_ok returned
    cases returned
    exact ⟨⟨slash_not_mem_of_safeSegment bundle, slash_not_mem_of_safeSegment customer⟩, rfl, rfl⟩

end GreenticDeployer.Trust
