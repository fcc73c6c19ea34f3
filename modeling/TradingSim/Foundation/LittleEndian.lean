import Mathlib.Algebra.Ring.Nat
import Mathlib.Data.List.Basic
import Mathlib.Tactic.Common

/-!
# Little-endian numbers

Reading a byte string as a number with its least significant byte first, and
writing a number that way at a fixed width.  The two are inverse to each other
at every width.
-/

namespace Foundation.LittleEndian

/-- The number a byte string stands for. -/
def value : List UInt8 → Nat
  | [] => 0
  | byte :: rest => byte.toNat + 256 * value rest

/-- The `width` lowest bytes of a number. -/
def encode : Nat → Nat → List UInt8
  | 0, _ => []
  | width + 1, number => UInt8.ofNat number :: encode width (number / 256)

@[simp] theorem length_encode (width number : Nat) :
    (encode width number).length = width := by
  induction width generalizing number with
  | zero => rfl
  | succ width ih => simp [encode, ih]

theorem value_lt (bytes : List UInt8) : value bytes < 256 ^ bytes.length := by
  induction bytes with
  | nil => simp [value]
  | cons byte rest ih =>
      have byteLt : byte.toNat < 256 := byte.toNat_lt
      rw [value, List.length_cons, Nat.pow_succ]
      omega

@[simp] theorem encode_value (bytes : List UInt8) :
    encode bytes.length (value bytes) = bytes := by
  induction bytes with
  | nil => rfl
  | cons byte rest ih =>
      have byteLt : byte.toNat < 256 := byte.toNat_lt
      have quotient : (byte.toNat + 256 * value rest) / 256 = value rest := by
        omega
      have remainder : UInt8.ofNat (byte.toNat + 256 * value rest) = byte := by
        apply UInt8.toNat_inj.mp
        rw [UInt8.toNat_ofNat']
        omega
      rw [List.length_cons, value, encode, quotient, remainder, ih]

/-- Reading what was written gives the number back, if the width has room for it. -/
theorem value_encode {width number : Nat} (fits : number < 256 ^ width) :
    value (encode width number) = number := by
  induction width generalizing number with
  | zero =>
      simp only [Nat.pow_zero, Nat.lt_one_iff] at fits
      simp [encode, value, fits]
  | succ width ih =>
      rw [Nat.pow_succ] at fits
      have quotientFits : number / 256 < 256 ^ width := by omega
      rw [encode, value, ih quotientFits, UInt8.toNat_ofNat']
      omega

end Foundation.LittleEndian
