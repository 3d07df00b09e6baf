import GreenticDeployer.Engine.InlineStash
import Mathlib.Data.Nat.Bitwise

/-!
# The stash's base64

The crate packs its bytes and sextets with shifts, masks and `|` on `u32`. No bit is
lost there and no two fields meet, so its words are the sums and quotients of the
model. From them: what a stash decodes to, and which texts the decoder takes.
-/

set_option maxHeartbeats 200000

namespace GreenticDeployer.Engine

theorem shifted_toNat {a k : UInt32} (short : k.toNat < 32)
    (fits : a.toNat * 2 ^ k.toNat < 2 ^ 32) : (a <<< k).toNat = a.toNat * 2 ^ k.toNat := by
  rw [UInt32.toNat_shiftLeft, Nat.mod_eq_of_lt short, Nat.shiftLeft_eq, Nat.mod_eq_of_lt fits]

/-- An `or` with a field below the bits in use is a sum. -/
theorem or_toNat {a b : UInt32} {high k : Nat} (aligned : a.toNat = high * 2 ^ k)
    (low : b.toNat < 2 ^ k) : (a ||| b).toNat = high * 2 ^ k + b.toNat := by
  rw [UInt32.toNat_or, aligned, ← Nat.shiftLeft_eq, Nat.shiftLeft_add_eq_or_of_lt low]

theorem masked_toNat {t k m : UInt32} (width : Nat) (short : k.toNat < 32)
    (mask : m.toNat = 2 ^ width - 1) :
    (t >>> k &&& m).toNat = t.toNat / 2 ^ k.toNat % 2 ^ width := by
  rw [UInt32.toNat_and, mask, Nat.and_two_pow_sub_one_eq_mod, UInt32.toNat_shiftRight,
    Nat.mod_eq_of_lt short, Nat.shiftRight_eq_div_pow]

/-- The encoder's `triple`. -/
def packBytes (b0 b1 b2 : UInt8) : UInt32 :=
  b0.toUInt32 <<< 16 ||| b1.toUInt32 <<< 8 ||| b2.toUInt32

/-- The index the encoder reads its alphabet at. -/
def sextetAt (t shift : UInt32) : Nat := (t >>> shift &&& 0x3F).toNat

def encodeWords : List UInt8 → List Char
  | [] => []
  | [b0] =>
    let t := packBytes b0 0 0
    [symbol (sextetAt t 18), symbol (sextetAt t 12)]
  | [b0, b1] =>
    let t := packBytes b0 b1 0
    [symbol (sextetAt t 18), symbol (sextetAt t 12), symbol (sextetAt t 6)]
  | b0 :: b1 :: b2 :: rest =>
    let t := packBytes b0 b1 b2
    symbol (sextetAt t 18) :: symbol (sextetAt t 12) :: symbol (sextetAt t 6) ::
      symbol ((t &&& 0x3F).toNat) :: encodeWords rest

theorem packBytes_toNat (b0 b1 b2 : UInt8) : (packBytes b0 b1 b2).toNat = triple b0 b1 b2 := by
  have h0 := b0.toNat_lt
  have h1 := b1.toNat_lt
  have h2 := b2.toNat_lt
  have first : (b0.toUInt32 <<< 16).toNat = b0.toNat * 2 ^ 16 :=
    shifted_toNat (by decide) (by simp; omega)
  have second : (b1.toUInt32 <<< 8).toNat = b1.toNat * 2 ^ 8 :=
    shifted_toNat (by decide) (by simp; omega)
  have upper : (b0.toUInt32 <<< 16 ||| b1.toUInt32 <<< 8).toNat =
      (b0.toNat * 2 ^ 8 + b1.toNat) * 2 ^ 8 := by
    rw [or_toNat first (by omega), second]
    omega
  rw [packBytes, or_toNat upper (by simpa using h2), UInt8.toNat_toUInt32, triple]
  omega

theorem sextetAt_packBytes (b0 b1 b2 : UInt8) (shift : UInt32) (short : shift.toNat < 32) :
    sextetAt (packBytes b0 b1 b2) shift = triple b0 b1 b2 / 2 ^ shift.toNat % 64 := by
  rw [sextetAt, masked_toNat 6 short rfl, packBytes_toNat]
  rfl

theorem encodeWords_eq (input : List UInt8) : encodeWords input = encodeChunks input := by
  have first : ∀ b0 b1 b2, sextetAt (packBytes b0 b1 b2) 18 = triple b0 b1 b2 / 0x40000 % 64 :=
    fun b0 b1 b2 => sextetAt_packBytes b0 b1 b2 18 (by decide)
  have second : ∀ b0 b1 b2, sextetAt (packBytes b0 b1 b2) 12 = triple b0 b1 b2 / 0x1000 % 64 :=
    fun b0 b1 b2 => sextetAt_packBytes b0 b1 b2 12 (by decide)
  have third : ∀ b0 b1 b2, sextetAt (packBytes b0 b1 b2) 6 = triple b0 b1 b2 / 0x40 % 64 :=
    fun b0 b1 b2 => sextetAt_packBytes b0 b1 b2 6 (by decide)
  have last : ∀ b0 b1 b2, (packBytes b0 b1 b2 &&& 0x3F).toNat = triple b0 b1 b2 % 64 := by
    intro b0 b1 b2
    rw [UInt32.toNat_and, packBytes_toNat]
    exact Nat.and_two_pow_sub_one_eq_mod _ 6
  induction input using encodeChunks.induct with
  | case1 => rfl
  | case2 b0 => simp only [encodeWords, encodeChunks, first, second]
  | case3 b0 b1 => simp only [encodeWords, encodeChunks, first, second, third]
  | case4 b0 b1 b2 rest ih =>
      simp only [encodeWords, encodeChunks, first, second, third, last, ih]

/-- The decoder's `val`, on `u8`. -/
def valWord (b : UInt8) : Option UInt8 :=
  if 65 ≤ b ∧ b ≤ 90 then some (b - 65)
  else if 97 ≤ b ∧ b ≤ 122 then some (b - 97 + 26)
  else if 48 ≤ b ∧ b ≤ 57 then some (b - 48 + 52)
  else if b = 45 then some 62
  else if b = 95 then some 63
  else none

/-- The decoder's `triple`. -/
def packSextets (s0 s1 s2 s3 : UInt8) : UInt32 :=
  s0.toUInt32 <<< 18 ||| s1.toUInt32 <<< 12 ||| s2.toUInt32 <<< 6 ||| s3.toUInt32

def octetAt (t shift : UInt32) : UInt8 := (t >>> shift &&& 0xFF).toUInt8

def decodeGroupWords (b0 b1 : UInt8) (b2 b3 : Option UInt8) : List UInt8 :=
  let t := packSextets b0 b1 (b2.getD 0) (b3.getD 0)
  octetAt t 16 ::
    ((if b2.isSome then [octetAt t 8] else []) ++
      (if b3.isSome then [(t &&& 0xFF).toUInt8] else []))

def decodeWords : List UInt8 → Option (List UInt8)
  | [] => some []
  | [_] => none
  | [c0, c1] => do
    let b0 ← valWord c0
    let b1 ← valWord c1
    return decodeGroupWords b0 b1 none none
  | [c0, c1, c2] => do
    let b0 ← valWord c0
    let b1 ← valWord c1
    return decodeGroupWords b0 b1 (valWord c2) none
  | c0 :: c1 :: c2 :: c3 :: rest => do
    let b0 ← valWord c0
    let b1 ← valWord c1
    let later ← decodeWords rest
    return decodeGroupWords b0 b1 (valWord c2) (valWord c3) ++ later

theorem valWord_spec (b : UInt8) :
    (valWord b).map UInt8.toNat = sextetOf b ∧ ∀ s, valWord b = some s → s.toNat < 64 := by
  have table : ∀ n < 256, (valWord (.ofNat n)).map UInt8.toNat = sextetOf (.ofNat n) ∧
      ∀ s, valWord (.ofNat n) = some s → s.toNat < 64 := by
    have entries : ∀ n < 256, (valWord (.ofNat n)).map UInt8.toNat = sextetOf (.ofNat n) ∧
        (valWord (.ofNat n)).all (fun s => s.toNat < 64) = true := by decide +kernel
    intro n bound
    refine ⟨(entries n bound).1, ?_⟩
    intro s read
    simpa [read] using (entries n bound).2
  simpa using table b.toNat b.toNat_lt

theorem packSextets_toNat {s0 s1 s2 s3 : UInt8} (h0 : s0.toNat < 64) (h1 : s1.toNat < 64)
    (h2 : s2.toNat < 64) (h3 : s3.toNat < 64) : (packSextets s0 s1 s2 s3).toNat =
      s0.toNat * 0x40000 + s1.toNat * 0x1000 + s2.toNat * 0x40 + s3.toNat := by
  have first : (s0.toUInt32 <<< 18).toNat = s0.toNat * 2 ^ 18 :=
    shifted_toNat (by decide) (by simp; omega)
  have second : (s1.toUInt32 <<< 12).toNat = s1.toNat * 2 ^ 12 :=
    shifted_toNat (by decide) (by simp; omega)
  have third : (s2.toUInt32 <<< 6).toNat = s2.toNat * 2 ^ 6 :=
    shifted_toNat (by decide) (by simp; omega)
  have upper : (s0.toUInt32 <<< 18 ||| s1.toUInt32 <<< 12).toNat =
      (s0.toNat * 2 ^ 6 + s1.toNat) * 2 ^ 12 := by
    rw [or_toNat first (by omega), second]
    omega
  have middle : (s0.toUInt32 <<< 18 ||| s1.toUInt32 <<< 12 ||| s2.toUInt32 <<< 6).toNat =
      ((s0.toNat * 2 ^ 6 + s1.toNat) * 2 ^ 6 + s2.toNat) * 2 ^ 6 := by
    rw [or_toNat upper (by omega), third]
    omega
  rw [packSextets, or_toNat middle (by simpa using h3), UInt8.toNat_toUInt32]
  omega

theorem octetAt_eq (t shift : UInt32) (short : shift.toNat < 32) :
    octetAt t shift = UInt8.ofNat (t.toNat / 2 ^ shift.toNat % 256) := by
  rw [octetAt, ← UInt8.ofNat_uInt32ToNat, masked_toNat 8 short rfl]
  rfl

theorem decodeGroupWords_eq {b0 b1 : UInt8} {b2 b3 : Option UInt8} (h0 : b0.toNat < 64)
    (h1 : b1.toNat < 64) (h2 : ∀ s, b2 = some s → s.toNat < 64)
    (h3 : ∀ s, b3 = some s → s.toNat < 64) :
    decodeGroupWords b0 b1 b2 b3 =
      decodeGroup b0.toNat b1.toNat (b2.map UInt8.toNat) (b3.map UInt8.toNat) := by
  have read : ∀ b : Option UInt8, (∀ s, b = some s → s.toNat < 64) →
      (b.getD 0).toNat < 64 ∧ (b.getD 0).toNat = (b.map UInt8.toNat).getD 0 ∧
        (b.map UInt8.toNat).isSome = b.isSome := by
    intro b bound
    cases b with
    | none => decide
    | some s => exact ⟨bound s rfl, rfl, rfl⟩
  obtain ⟨bound2, same2, some2⟩ := read b2 h2
  obtain ⟨bound3, same3, some3⟩ := read b3 h3
  have last : ∀ t : UInt32, (t &&& 0xFF).toUInt8 = UInt8.ofNat (t.toNat % 256) := by
    intro t
    rw [← UInt8.ofNat_uInt32ToNat, UInt32.toNat_and]
    exact congrArg _ (Nat.and_two_pow_sub_one_eq_mod t.toNat 8)
  have word := packSextets_toNat h0 h1 bound2 bound3
  rw [same2, same3] at word
  have first : ∀ t, octetAt t 16 = UInt8.ofNat (t.toNat / 0x10000 % 256) :=
    fun t => octetAt_eq t 16 (by decide)
  have second : ∀ t, octetAt t 8 = UInt8.ofNat (t.toNat / 0x100 % 256) :=
    fun t => octetAt_eq t 8 (by decide)
  simp only [decodeGroupWords, decodeGroup, first, second, last, word, some2, some3]

theorem decodeWords_eq (bytes : List UInt8) : decodeWords bytes = decodeBytes bytes := by
  have same : ∀ b, sextetOf b = (valWord b).map UInt8.toNat := fun b => (valWord_spec b).1.symm
  have bound : ∀ {b s}, valWord b = some s → s.toNat < 64 := fun {b} => (valWord_spec b).2 _
  induction bytes using decodeBytes.induct with
  | case1 => rfl
  | case2 => rfl
  | case3 c0 c1 =>
      simp only [decodeWords, decodeBytes, same]
      cases first : valWord c0 with
      | none => rfl
      | some b0 =>
      cases second : valWord c1 with
      | none => rfl
      | some b1 =>
          have none_ : ∀ s, (none : Option UInt8) = some s → s.toNat < 64 := fun _ wrong => by
            cases wrong
          exact congrArg some (decodeGroupWords_eq (bound first) (bound second) none_ none_)
  | case4 c0 c1 c2 =>
      simp only [decodeWords, decodeBytes, same]
      cases first : valWord c0 with
      | none => rfl
      | some b0 =>
      cases second : valWord c1 with
      | none => rfl
      | some b1 =>
          exact congrArg some (decodeGroupWords_eq (bound first) (bound second)
            (fun _ => bound) (fun _ wrong => by cases wrong))
  | case5 c0 c1 c2 c3 rest ih =>
      simp only [decodeWords, decodeBytes, same, ih]
      cases first : valWord c0 with
      | none => rfl
      | some b0 =>
      cases second : valWord c1 with
      | none => rfl
      | some b1 =>
          have group : decodeGroupWords b0 b1 (valWord c2) (valWord c3) = _ :=
            decodeGroupWords_eq (bound first) (bound second) (fun _ => bound) (fun _ => bound)
          simp only [Option.map_some, Option.bind_eq_bind, Option.bind_some, group]

/-- Every byte string comes back from its encoding, and every snapshot from its
token. -/
theorem stashed_snapshots_come_back :
    (∀ input : List UInt8, base64Decode (base64Encode input) = some input) ∧
    ∀ (serde : SerdeJson) (snapshot : serde.Value),
      loadInline serde (stashInline serde snapshot) = some snapshot := by
  constructor
  · exact base64Decode_base64Encode
  · exact fun serde => loadInline_stashInline serde

def Letter (b : UInt8) : Prop := ∃ c ∈ alphabet, c.toNat = b.toNat

theorem sextetOf_isSome_iff (b : UInt8) : (sextetOf b).isSome = true ↔ Letter b := by
  have codes : alphabet.map Char.toNat =
      List.range' 65 26 ++ List.range' 97 26 ++ List.range' 48 10 ++ [45, 95] := by decide
  have table : ∀ n < 256, (sextetOf (.ofNat n)).isSome = true ↔
      65 ≤ n ∧ n < 91 ∨ 97 ≤ n ∧ n < 123 ∨ 48 ≤ n ∧ n < 58 ∨ n = 45 ∨ n = 95 := by
    decide +kernel
  have letter : Letter b ↔ b.toNat ∈ alphabet.map Char.toNat := by simp [Letter]
  have read := table b.toNat b.toNat_lt
  rw [UInt8.ofNat_toNat] at read
  rw [read, letter, codes]
  simp [List.mem_range'_1]

/-- The first two places of every group hold letters, and there is no group of
one. -/
structure Opened (bytes : List UInt8) : Prop where
  paired : bytes.length % 4 ≠ 1
  letters : ∀ i b, bytes[i]? = some b → i % 4 < 2 → Letter b

theorem opened_short {c0 c1 : UInt8} {rest : List UInt8} (short : rest.length < 2) :
    Opened (c0 :: c1 :: rest) ↔ Letter c0 ∧ Letter c1 := by
  constructor
  · intro opened
    exact ⟨opened.letters 0 c0 rfl (by decide), opened.letters 1 c1 rfl (by decide)⟩
  · rintro ⟨first, second⟩
    refine ⟨by simp only [List.length_cons]; omega, ?_⟩
    intro i b present place
    match i, place with
    | 0, _ => cases present; exact first
    | 1, _ => cases present; exact second
    | i + 2, place =>
        have inside : i + 2 < rest.length + 2 := (List.getElem?_eq_some_iff.mp present).1
        omega

theorem opened_group {c0 c1 c2 c3 : UInt8} {rest : List UInt8} :
    Opened (c0 :: c1 :: c2 :: c3 :: rest) ↔ Letter c0 ∧ Letter c1 ∧ Opened rest := by
  constructor
  · intro opened
    have paired := opened.paired
    simp only [List.length_cons] at paired
    refine ⟨opened.letters 0 c0 rfl (by decide), opened.letters 1 c1 rfl (by decide), by omega, ?_⟩
    intro i b present place
    exact opened.letters (i + 4) b present (by omega)
  · rintro ⟨first, second, opened⟩
    have paired := opened.paired
    refine ⟨by simp only [List.length_cons]; omega, ?_⟩
    intro i b present place
    match i, place with
    | 0, _ => cases present; exact first
    | 1, _ => cases present; exact second
    | i + 4, place => exact opened.letters i b present (by omega)

/-- What the decoder asks of a text: the third and fourth places of a group are
not looked at. -/
theorem decodeBytes_isSome_iff (bytes : List UInt8) :
    (decodeBytes bytes).isSome = true ↔ Opened bytes := by
  induction bytes using decodeBytes.induct with
  | case1 =>
      refine ⟨fun _ => ⟨by decide, ?_⟩, fun _ => rfl⟩
      intro i b present
      cases present
  | case2 c =>
      refine ⟨?_, fun opened => absurd rfl opened.paired⟩
      intro taken
      cases taken
  | case3 c0 c1 =>
      rw [opened_short (by decide), ← sextetOf_isSome_iff, ← sextetOf_isSome_iff, decodeBytes]
      cases sextetOf c0 <;> cases sextetOf c1 <;> simp
  | case4 c0 c1 c2 =>
      rw [opened_short (by simp), ← sextetOf_isSome_iff, ← sextetOf_isSome_iff, decodeBytes]
      cases sextetOf c0 <;> cases sextetOf c1 <;> simp
  | case5 c0 c1 c2 c3 rest ih =>
      rw [opened_group, ← ih, ← sextetOf_isSome_iff, ← sextetOf_isSome_iff, decodeBytes]
      cases sextetOf c0 <;> cases sextetOf c1 <;> cases decodeBytes rest <;> simp

/-- Text of the unpadded alphabet: letters only, and no last group of one. -/
def Unpadded (text : String) : Prop :=
  (∀ c ∈ text.toList, c ∈ alphabet) ∧ text.toList.length % 4 ≠ 1

theorem utf8Bytes_letters {text : String} (letters : ∀ c ∈ text.toList, c ∈ alphabet) :
    utf8Bytes text = text.toList.map fun c => UInt8.ofNat c.toNat := by
  have single : ∀ c ∈ alphabet, String.utf8EncodeChar c = [UInt8.ofNat c.toNat] :=
    List.forall_iff_forall_mem.mp (by decide)
  rw [utf8Bytes, List.map_eq_flatMap]
  exact List.flatMap_congr fun c member => single c (letters c member)

theorem opened_of_unpadded {text : String} (unpadded : Unpadded text) :
    Opened (utf8Bytes text) := by
  have small : ∀ c ∈ alphabet, c.toNat = (UInt8.ofNat c.toNat).toNat :=
    List.forall_iff_forall_mem.mp (by decide)
  rw [utf8Bytes_letters unpadded.1]
  refine ⟨by simpa using unpadded.2, ?_⟩
  intro i b present place
  obtain ⟨c, read, rfl⟩ := Option.map_eq_some_iff.mp (List.getElem?_map .. ▸ present)
  have member := unpadded.1 c (List.mem_of_getElem? read)
  exact ⟨c, member, small c member⟩

/-- Text of letters is taken exactly when it has no last group of one. No text is
taken that has another byte at the first or second place of a group, or a last
group of one. -/
theorem unpadded_text_taken (text : String) :
    ((base64Decode text).isSome = true ∧ (∀ c ∈ text.toList, c ∈ alphabet) ↔ Unpadded text) ∧
      ((base64Decode text).isSome = true → Opened (utf8Bytes text)) := by
  have taken : (base64Decode text).isSome = true ↔ Opened (utf8Bytes text) :=
    decodeBytes_isSome_iff (utf8Bytes text)
  refine ⟨?_, taken.mp⟩
  constructor
  · rintro ⟨some_, letters⟩
    have paired := (taken.mp some_).paired
    rw [utf8Bytes_letters letters, List.length_map] at paired
    exact ⟨letters, paired⟩
  · intro unpadded
    exact ⟨taken.mpr (opened_of_unpadded unpadded), unpadded.1⟩

theorem unpadded_text_taken_two :
    (base64Decode "YQ").isSome = true ∧ Opened (utf8Bytes "YQ") := by
  have taken : (base64Decode "YQ").isSome = true := by decide
  exact ⟨taken, (unpadded_text_taken "YQ").2 taken⟩

/-- Groups of four letters, with `=` in their place only at the end of the last
group. -/
def Padded : List Char → Prop
  | [] => True
  | [c0, c1, c2, c3] => c0 ∈ alphabet ∧ c1 ∈ alphabet ∧
    (c2 ∈ alphabet ∧ (c3 ∈ alphabet ∨ c3 = '=') ∨ c2 = '=' ∧ c3 = '=')
  | c0 :: c1 :: c2 :: c3 :: rest =>
    c0 ∈ alphabet ∧ c1 ∈ alphabet ∧ c2 ∈ alphabet ∧ c3 ∈ alphabet ∧ Padded rest
  | _ => False

/-- The encoder's own text for one byte is not in such groups, and with two foreign
bytes behind it the decoder takes it all the same. -/
theorem unpadded_text_not_padded :
    (base64Encode [97] = "YQ" ∧ base64Decode "YQ" = some [97] ∧ ¬ Padded "YQ".toList) ∧
      base64Decode "YQ!!" = some [97] ∧ ¬ Padded "YQ!!".toList := by
  have foreign : '!' ∉ alphabet := by decide
  refine ⟨⟨by decide, by decide, fun padded => padded⟩, by decide, ?_⟩
  rintro ⟨-, -, ⟨letter, -⟩ | ⟨pad, -⟩⟩
  · exact foreign letter
  · cases pad

end GreenticDeployer.Engine
