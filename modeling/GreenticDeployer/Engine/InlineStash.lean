import GreenticDeployer.Spec.Documents
import Mathlib.Data.List.Basic

/-!
# The inline rollback stash

A previous state rides in a `previous_*_ref` path as `inline://` followed by
the URL-safe base64 of its JSON. The JSON library is an argument; the base64
codec is the crate's own and is inverted here.
-/

set_option maxHeartbeats 200000

namespace GreenticDeployer.Engine

open Spec

/-- `serde_json`, as far as the stash uses it on values of one type. The two
laws are its documented round trips; encoding may refuse a value. -/
structure JsonCodec (Value α : Type) where
  toValue : α → Except String Value
  fromValue : Value → Except String α
  fromValue_toValue : ∀ a v, toValue a = .ok v → fromValue v = .ok a

structure SerdeJson where
  Value : Type
  toString : Value → String
  fromStr : String → Option Value
  fromStr_toString : ∀ v, fromStr (toString v) = some v
  split : JsonCodec Value TrafficSplit
  pack : JsonCodec Value EnvPackBinding
  extension : JsonCodec Value ExtensionBinding

def JsonCodec.refusing (Value α : Type) : JsonCodec Value α :=
  ⟨fun _ => .error "unsupported", fun _ => .error "unsupported", nofun⟩

def JsonCodec.only {α : Type} [DecidableEq α] (document : α) : JsonCodec Unit α where
  toValue := fun a => if a = document then .ok () else .error "unsupported"
  fromValue := fun _ => .ok document
  fromValue_toValue := by
    intro a v encoded
    split at encoded
    · rename_i same
      rw [same]
    · cases encoded

def SerdeJson.onText (text : String) (split : JsonCodec Unit TrafficSplit)
    (pack : JsonCodec Unit EnvPackBinding) (extension : JsonCodec Unit ExtensionBinding) :
    SerdeJson where
  Value := Unit
  toString := fun _ => text
  fromStr := fun raw => if raw = text then some () else none
  fromStr_toString := by simp
  split := split
  pack := pack
  extension := extension

def alphabet : List Char :=
  "ABCDEFGHIJKLMNOPQRSTUVWXYZabcdefghijklmnopqrstuvwxyz0123456789-_".toList

def symbol (sextet : Nat) : Char := alphabet.getD sextet 'A'

/-- A chunk of up to three bytes, as the 24-bit number its shifts assemble. -/
def triple (b0 b1 b2 : UInt8) : Nat := b0.toNat * 0x10000 + b1.toNat * 0x100 + b2.toNat

def encodeChunks : List UInt8 → List Char
  | [] => []
  | [b0] =>
    let t := triple b0 0 0
    [symbol (t / 0x40000 % 64), symbol (t / 0x1000 % 64)]
  | [b0, b1] =>
    let t := triple b0 b1 0
    [symbol (t / 0x40000 % 64), symbol (t / 0x1000 % 64), symbol (t / 0x40 % 64)]
  | b0 :: b1 :: b2 :: rest =>
    let t := triple b0 b1 b2
    symbol (t / 0x40000 % 64) :: symbol (t / 0x1000 % 64) :: symbol (t / 0x40 % 64) ::
      symbol (t % 64) :: encodeChunks rest

def base64Encode (input : List UInt8) : String := String.ofList (encodeChunks input)

/-- The decoder's `val`. -/
def sextetOf (b : UInt8) : Option Nat :=
  if 65 ≤ b ∧ b ≤ 90 then some (b.toNat - 65)
  else if 97 ≤ b ∧ b ≤ 122 then some (b.toNat - 97 + 26)
  else if 48 ≤ b ∧ b ≤ 57 then some (b.toNat - 48 + 52)
  else if b = 45 then some 62
  else if b = 95 then some 63
  else none

/-- The bytes one group contributes. A third or fourth position that is absent
or not in the alphabet counts as zero and contributes no byte. -/
def decodeGroup (s0 s1 : Nat) (s2 s3 : Option Nat) : List UInt8 :=
  let t := s0 * 0x40000 + s1 * 0x1000 + s2.getD 0 * 0x40 + s3.getD 0
  UInt8.ofNat (t / 0x10000 % 256) ::
    ((if s2.isSome then [UInt8.ofNat (t / 0x100 % 256)] else []) ++
      (if s3.isSome then [UInt8.ofNat (t % 256)] else []))

def decodeBytes : List UInt8 → Option (List UInt8)
  | [] => some []
  | [_] => none
  | [c0, c1] => do
    let s0 ← sextetOf c0
    let s1 ← sextetOf c1
    return decodeGroup s0 s1 none none
  | [c0, c1, c2] => do
    let s0 ← sextetOf c0
    let s1 ← sextetOf c1
    return decodeGroup s0 s1 (sextetOf c2) none
  | c0 :: c1 :: c2 :: c3 :: rest => do
    let s0 ← sextetOf c0
    let s1 ← sextetOf c1
    let later ← decodeBytes rest
    return decodeGroup s0 s1 (sextetOf c2) (sextetOf c3) ++ later

def utf8Bytes (text : String) : List UInt8 := text.toList.flatMap String.utf8EncodeChar

def base64Decode (input : String) : Option (List UInt8) := decodeBytes (utf8Bytes input)

theorem symbol_sextet {n : Nat} (bound : n < 64) :
    ∃ b, String.utf8EncodeChar (symbol n) = [b] ∧ sextetOf b = some n := by
  have table : ∀ m < 64, String.utf8EncodeChar (symbol m) =
      [UInt8.ofNat (symbol m).toNat] ∧ sextetOf (UInt8.ofNat (symbol m).toNat) = some m := by
    decide +kernel
  exact ⟨_, table n bound⟩

theorem byte_eq {n : Nat} {b : UInt8} (same : n % 256 = b.toNat) :
    UInt8.ofNat (n % 256) = b := by
  rw [same]
  exact UInt8.ofNat_toNat

theorem decodeGroup_full (b0 b1 b2 : UInt8) :
    decodeGroup (triple b0 b1 b2 / 0x40000 % 64) (triple b0 b1 b2 / 0x1000 % 64)
      (some (triple b0 b1 b2 / 0x40 % 64)) (some (triple b0 b1 b2 % 64)) = [b0, b1, b2] := by
  have h0 := b0.toNat_lt
  have h1 := b1.toNat_lt
  have h2 := b2.toNat_lt
  have assembled : triple b0 b1 b2 / 0x40000 % 64 * 0x40000 +
      triple b0 b1 b2 / 0x1000 % 64 * 0x1000 + triple b0 b1 b2 / 0x40 % 64 * 0x40 +
      triple b0 b1 b2 % 64 = triple b0 b1 b2 := by
    unfold triple
    omega
  have bytes : decodeGroup (triple b0 b1 b2 / 0x40000 % 64) (triple b0 b1 b2 / 0x1000 % 64)
      (some (triple b0 b1 b2 / 0x40 % 64)) (some (triple b0 b1 b2 % 64)) =
      [UInt8.ofNat (triple b0 b1 b2 / 0x10000 % 256),
        UInt8.ofNat (triple b0 b1 b2 / 0x100 % 256), UInt8.ofNat (triple b0 b1 b2 % 256)] := by
    unfold decodeGroup
    rw [Option.getD_some, Option.getD_some, assembled]
    rfl
  rw [bytes, byte_eq (b := b0), byte_eq (b := b1), byte_eq (b := b2)] <;> unfold triple <;> omega

theorem decodeGroup_two (b0 b1 : UInt8) :
    decodeGroup (triple b0 b1 0 / 0x40000 % 64) (triple b0 b1 0 / 0x1000 % 64)
      (some (triple b0 b1 0 / 0x40 % 64)) none = [b0, b1] := by
  have h0 := b0.toNat_lt
  have h1 := b1.toNat_lt
  have zero : (0 : UInt8).toNat = 0 := rfl
  have assembled : triple b0 b1 0 / 0x40000 % 64 * 0x40000 +
      triple b0 b1 0 / 0x1000 % 64 * 0x1000 + triple b0 b1 0 / 0x40 % 64 * 0x40 + 0 =
      triple b0 b1 0 := by
    unfold triple
    omega
  have bytes : decodeGroup (triple b0 b1 0 / 0x40000 % 64) (triple b0 b1 0 / 0x1000 % 64)
      (some (triple b0 b1 0 / 0x40 % 64)) none =
      [UInt8.ofNat (triple b0 b1 0 / 0x10000 % 256),
        UInt8.ofNat (triple b0 b1 0 / 0x100 % 256)] := by
    unfold decodeGroup
    rw [Option.getD_some, Option.getD_none, assembled]
    rfl
  rw [bytes, byte_eq (b := b0), byte_eq (b := b1)] <;> unfold triple <;> omega

theorem decodeGroup_one (b0 : UInt8) :
    decodeGroup (triple b0 0 0 / 0x40000 % 64) (triple b0 0 0 / 0x1000 % 64) none none =
      [b0] := by
  have h0 := b0.toNat_lt
  simp only [decodeGroup, triple, Option.getD_none, Option.isSome_none, Bool.false_eq_true,
    if_false, List.append_nil, UInt8.toNat_zero, List.cons.injEq, and_true]
  exact byte_eq (by omega)

theorem decodeBytes_encodeChunks (input : List UInt8) :
    decodeBytes ((encodeChunks input).flatMap String.utf8EncodeChar) = some input := by
  have sextet : ∀ n, ∃ b, String.utf8EncodeChar (symbol (n % 64)) = [b] ∧
      sextetOf b = some (n % 64) := fun n => symbol_sextet (Nat.mod_lt n (by decide))
  induction input using encodeChunks.induct with
  | case1 => rfl
  | case2 b0 =>
      obtain ⟨c0, e0, s0⟩ := sextet (triple b0 0 0 / 0x40000)
      obtain ⟨c1, e1, s1⟩ := sextet (triple b0 0 0 / 0x1000)
      simp only [encodeChunks, List.flatMap_cons, List.flatMap_nil, e0, e1, List.cons_append,
        List.nil_append, decodeBytes, s0, s1]
      simpa using decodeGroup_one b0
  | case3 b0 b1 =>
      obtain ⟨c0, e0, s0⟩ := sextet (triple b0 b1 0 / 0x40000)
      obtain ⟨c1, e1, s1⟩ := sextet (triple b0 b1 0 / 0x1000)
      obtain ⟨c2, e2, s2⟩ := sextet (triple b0 b1 0 / 0x40)
      simp only [encodeChunks, List.flatMap_cons, List.flatMap_nil, e0, e1, e2,
        List.cons_append, List.nil_append, decodeBytes, s0, s1, s2]
      simpa using decodeGroup_two b0 b1
  | case4 b0 b1 b2 rest ih =>
      obtain ⟨c0, e0, s0⟩ := sextet (triple b0 b1 b2 / 0x40000)
      obtain ⟨c1, e1, s1⟩ := sextet (triple b0 b1 b2 / 0x1000)
      obtain ⟨c2, e2, s2⟩ := sextet (triple b0 b1 b2 / 0x40)
      obtain ⟨c3, e3, s3⟩ := sextet (triple b0 b1 b2)
      simp only [encodeChunks, List.flatMap_cons, e0, e1, e2, e3, List.cons_append,
        List.nil_append, decodeBytes, s0, s1, s2, s3, ih]
      simp [decodeGroup_full b0 b1 b2]

theorem base64Decode_base64Encode (input : List UInt8) :
    base64Decode (base64Encode input) = some input := by
  simpa [base64Decode, base64Encode, utf8Bytes] using decodeBytes_encodeChunks input

def prevPrefix : String := "inline://"

def fromUtf8 (bytes : List UInt8) : Option String := String.fromUTF8? bytes.toByteArray

theorem fromUtf8_utf8Bytes (text : String) : fromUtf8 (utf8Bytes text) = some text := by
  have bytes : (utf8Bytes text).toByteArray = text.toByteArray := by
    rw [← String.utf8Encode_toList]
    rfl
  have valid : ByteArray.IsValidUTF8 (utf8Bytes text).toByteArray := by
    rw [bytes]
    exact text.isValidUTF8
  simp only [fromUtf8, String.fromUTF8?, dif_pos valid, Option.some.injEq]
  apply String.toByteArray_inj.mp
  exact bytes

variable (serde : SerdeJson)

def stashInline (snapshot : serde.Value) : PathBuf :=
  prevPrefix ++ base64Encode (utf8Bytes (serde.toString snapshot))

def loadInline (prevRef : PathBuf) : Option serde.Value := do
  let encoded ← prevRef.toList.dropPrefix? prevPrefix.toList
  let bytes ← base64Decode (String.ofList encoded)
  let raw ← fromUtf8 bytes
  serde.fromStr raw

theorem loadInline_stashInline (snapshot : serde.Value) :
    loadInline serde (stashInline serde snapshot) = some snapshot := by
  have stripped : (stashInline serde snapshot).toList.dropPrefix? prevPrefix.toList =
      some (base64Encode (utf8Bytes (serde.toString snapshot))).toList := by
    rw [List.dropPrefix?_eq_some_iff]
    exact ⟨prevPrefix.toList, by simp [stashInline], by simp⟩
  simp [loadInline, stripped, base64Decode_base64Encode, fromUtf8_utf8Bytes,
    serde.fromStr_toString]

end GreenticDeployer.Engine
