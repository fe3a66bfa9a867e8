import Mathlib.Algebra.Order.Ring.Nat
import Mathlib.Data.List.Basic

/-!
# Numbers as strings of bytes

The most significant byte comes first. A number below `256 ^ width` is determined
by its `width` bytes, and every string of bytes is the one of the number it spells.
-/

namespace Rstream.Library

open Nat

/-- The `width` lowest bytes of a number, the most significant first. -/
def bigEndian : Nat → Nat → List UInt8
  | 0, _ => []
  | width + 1, value => UInt8.ofNat (value / 256 ^ width) :: bigEndian width value

/-- The number that a string of bytes spells. -/
def ofBigEndian : List UInt8 → Nat
  | [] => 0
  | byte :: bytes => byte.toNat * 256 ^ bytes.length + ofBigEndian bytes

@[simp] theorem length_bigEndian (width value : Nat) : (bigEndian width value).length = width := by
  induction width with
  | zero => rfl
  | succ width ih => rw [bigEndian, List.length_cons, ih]

theorem ofBigEndian_lt (bytes : List UInt8) : ofBigEndian bytes < 256 ^ bytes.length := by
  induction bytes with
  | nil => exact one_pos
  | cons byte bytes ih =>
    have small : byte.toNat < 256 := byte.toNat_lt
    calc ofBigEndian (byte :: bytes)
        < byte.toNat * 256 ^ bytes.length + 256 ^ bytes.length := Nat.add_lt_add_left ih _
      _ = (byte.toNat + 1) * 256 ^ bytes.length := (succ_mul _ _).symm
      _ ≤ 256 * 256 ^ bytes.length := mul_le_mul_right _ small
      _ = 256 ^ (byte :: bytes).length := by rw [List.length_cons, pow_succ, mul_comm]

theorem ofBigEndian_bigEndian_mod (width value : Nat) :
    ofBigEndian (bigEndian width value) = value % 256 ^ width := by
  induction width with
  | zero => rw [bigEndian, ofBigEndian, pow_zero, mod_one]
  | succ width ih =>
    have split : value % 256 ^ (width + 1) =
        value % 256 ^ width + 256 ^ width * (value / 256 ^ width % 256) := by
      rw [pow_succ, mod_mul]
    rw [bigEndian, ofBigEndian, length_bigEndian, ih, UInt8.toNat_ofNat', split,
      add_comm, mul_comm]

/-- Reading back what was written. -/
theorem ofBigEndian_bigEndian {width value : Nat} (small : value < 256 ^ width) :
    ofBigEndian (bigEndian width value) = value := by
  rw [ofBigEndian_bigEndian_mod, mod_eq_of_lt small]

/-- A multiple of the modulus does not change the bytes. -/
theorem bigEndian_add_mul (width value factor : Nat) :
    bigEndian width (factor * 256 ^ width + value) = bigEndian width value := by
  induction width generalizing factor with
  | zero => rfl
  | succ width ih =>
    have split : factor * 256 ^ (width + 1) + value =
        (factor * 256) * 256 ^ width + value := by
      rw [pow_succ, mul_assoc, mul_comm 256]
    have positive : 0 < 256 ^ width := Nat.pow_pos (by decide)
    rw [split, bigEndian, bigEndian, ih, add_comm, add_mul_div_right _ _ positive]
    congr 1
    apply UInt8.toNat_inj.mp
    rw [UInt8.toNat_ofNat', UInt8.toNat_ofNat', add_mul_mod_self_right]

/-- Writing what was read. -/
theorem bigEndian_ofBigEndian (bytes : List UInt8) :
    bigEndian bytes.length (ofBigEndian bytes) = bytes := by
  induction bytes with
  | nil => rfl
  | cons byte bytes ih =>
    have positive : 0 < 256 ^ bytes.length := Nat.pow_pos (by decide)
    have first : (byte.toNat * 256 ^ bytes.length + ofBigEndian bytes) / 256 ^ bytes.length =
        byte.toNat := by
      rw [add_comm, add_mul_div_right _ _ positive,
        div_eq_of_lt (ofBigEndian_lt bytes), zero_add]
    rw [List.length_cons, ofBigEndian, bigEndian, first, bigEndian_add_mul, ih,
      UInt8.ofNat_toNat]

theorem bigEndian_injective {width first second : Nat} (small : first < 256 ^ width)
    (smaller : second < 256 ^ width) (same : bigEndian width first = bigEndian width second) :
    first = second := by
  rw [← ofBigEndian_bigEndian small, same, ofBigEndian_bigEndian smaller]

end Rstream.Library
