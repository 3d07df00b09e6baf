import Mathlib.Algebra.Group.Nat.Defs
import Mathlib.Data.List.Basic
import Mathlib.Data.Nat.Basic

/-!
# Length-prefixed fields

A list of byte strings as one byte string, each field after its length. Nothing in a field
can look like the end of it.
-/

set_option maxHeartbeats 200000

namespace GreenticDeployer.Lib

abbrev Octets := List UInt8

/-- The lowest bytes of a number, the lowest first. -/
def littleEndian : Nat → Nat → Octets
  | 0, _ => []
  | width + 1, n => UInt8.ofNat n :: littleEndian width (n / 256)

@[simp] theorem length_littleEndian (width n : Nat) : (littleEndian width n).length = width := by
  induction width generalizing n with
  | zero => rfl
  | succ width ih => rw [littleEndian, List.length_cons, ih]

theorem ofNat_eq_ofNat {a b : Nat} (same : UInt8.ofNat a = UInt8.ofNat b) :
    a % 256 = b % 256 := by
  have bytes := congrArg UInt8.toNat same
  rwa [UInt8.toNat_ofNat', UInt8.toNat_ofNat'] at bytes

theorem littleEndian_inj {width a b : Nat} (smallA : a < 256 ^ width) (smallB : b < 256 ^ width)
    (same : littleEndian width a = littleEndian width b) : a = b := by
  induction width generalizing a b with
  | zero => omega
  | succ width ih =>
      obtain ⟨low, high⟩ := List.cons.inj same
      rw [Nat.pow_succ] at smallA smallB
      have quotients : a / 256 = b / 256 :=
        ih (Nat.div_lt_of_lt_mul (by omega)) (Nat.div_lt_of_lt_mul (by omega)) high
      have remainders := ofNat_eq_ofNat low
      omega

def utf8 (text : String) : Octets := text.toByteArray.data.toList

theorem utf8_inj {s t : String} (same : utf8 s = utf8 t) : s = t :=
  String.toByteArray_inj.mp (ByteArray.ext (Array.toList_inj.mp same))

def framed (fields : List Octets) : Octets :=
  fields.flatMap fun field => littleEndian 8 field.length ++ field

/-- A field as long as its prefix can say. -/
def Short (field : Octets) : Prop := field.length < 256 ^ 8

instance (field : Octets) : Decidable (Short field) := Nat.decLt _ _

theorem framed_inj {left right : List Octets} (short : ∀ field ∈ left, Short field)
    (short' : ∀ field ∈ right, Short field) (same : framed left = framed right) :
    left = right := by
  have nonempty : ∀ (field : Octets) (rest : List Octets), framed (field :: rest) ≠ [] := by
    intro field rest empty
    have lengths := congrArg List.length empty
    simp [framed] at lengths
  induction left generalizing right with
  | nil =>
      cases right with
      | nil => rfl
      | cons field rest => exact absurd same.symm (nonempty field rest)
  | cons head tail ih =>
      cases right with
      | nil => exact absurd same (nonempty head tail)
      | cons field rest =>
          obtain ⟨shortHead, shortTail⟩ := List.forall_mem_cons.mp short
          obtain ⟨shortField, shortRest⟩ := List.forall_mem_cons.mp short'
          simp only [framed, List.flatMap_cons, List.append_assoc] at same
          obtain ⟨prefixes, contents⟩ := List.append_inj same (by simp)
          have lengths := littleEndian_inj shortHead shortField prefixes
          obtain ⟨heads, tails⟩ := List.append_inj contents lengths
          rw [heads, ih shortTail shortRest tails]

def hexDigits : List Char := "0123456789abcdef".toList

def hexDigit (n : Nat) : Char := hexDigits.getD n '0'

def hexEncode (bytes : Octets) : String :=
  String.ofList (bytes.flatMap fun byte => [hexDigit (byte.toNat / 16), hexDigit (byte.toNat % 16)])

theorem hexDigit_mem {n : Nat} (small : n < 16) : hexDigit n ∈ hexDigits := by
  have each : ∀ i : Fin 16, hexDigit i ∈ hexDigits := by decide
  exact each ⟨n, small⟩

theorem hexDigit_inj {a b : Nat} (smallA : a < 16) (smallB : b < 16)
    (same : hexDigit a = hexDigit b) : a = b := by
  have distinct : ∀ i : Fin 16, ∀ j : Fin 16, hexDigit i = hexDigit j → i = j := by decide
  exact congrArg Fin.val (distinct ⟨a, smallA⟩ ⟨b, smallB⟩ same)

theorem mem_hexEncode {bytes : Octets} {c : Char} (member : c ∈ (hexEncode bytes).toList) :
    c ∈ hexDigits := by
  simp only [hexEncode, String.toList_ofList, List.mem_flatMap] at member
  obtain ⟨byte, -, digit⟩ := member
  have bound := byte.toNat_lt
  rcases List.mem_pair.mp digit with rfl | rfl
  · exact hexDigit_mem (by omega)
  · exact hexDigit_mem (by omega)

theorem hexEncode_inj {left right : Octets} (same : hexEncode left = hexEncode right) :
    left = right := by
  have chars := congrArg String.toList same
  simp only [hexEncode, String.toList_ofList] at chars
  clear same
  induction left generalizing right with
  | nil =>
      cases right with
      | nil => rfl
      | cons byte rest => simp at chars
  | cons head tail ih =>
      cases right with
      | nil => simp at chars
      | cons byte rest =>
          simp only [List.flatMap_cons, List.cons_append, List.nil_append, List.cons.injEq] at chars
          obtain ⟨high, low, rests⟩ := chars
          have bound := head.toNat_lt
          have bound' := byte.toNat_lt
          have quotients := hexDigit_inj (by omega) (by omega) high
          have remainders := hexDigit_inj (by omega) (by omega) low
          have bytes : head = byte := UInt8.toNat_inj.mp (by omega)
          rw [bytes, ih rests]

end GreenticDeployer.Lib
