import Mathlib.Algebra.Order.Ring.Nat
import Mathlib.Data.List.Basic
import Mathlib.Data.Nat.Notation

/-!
# Numbers as hexadecimal texts

The hexadecimal text of a number is filled up with zeros on the left. The number is read back from
it, whatever the width is, and a number below `16 ^ width` fills the width exactly.
-/

namespace Rstream.Library

/-- The hexadecimal digits of a number, with zeros on the left up to a width. -/
def hexadecimal (width value : Nat) : List Char :=
  List.leftpad width '0' (Nat.toDigits 16 value)

/-- A digit of a hexadecimal text, in lower case. -/
def isHexDigit (digit : Char) : Bool :=
  ('0' ≤ digit && digit ≤ '9') || ('a' ≤ digit && digit ≤ 'f')

/-- The value of a hexadecimal digit. -/
def hexDigitValue (digit : Char) : Nat :=
  if digit ≤ '9' then digit.toNat - 48 else digit.toNat - 87

/-- The number that a hexadecimal text spells. -/
def hexValue (digits : List Char) : Nat :=
  digits.foldl (fun value digit => 16 * value + hexDigitValue digit) 0

theorem length_hexadecimal {width value : Nat} (positive : 0 < width)
    (small : value < 16 ^ width) : (hexadecimal width value).length = width := by
  have short := (Nat.length_toDigits_le_iff (by decide) positive).mpr small
  rw [hexadecimal, List.length_leftpad, Nat.max_eq_left short]

theorem isHexDigit_digitChar : ∀ digit < 16, isHexDigit (Nat.digitChar digit) = true := by decide

theorem hexDigitValue_digitChar : ∀ digit < 16, hexDigitValue (Nat.digitChar digit) = digit := by
  decide

theorem isHexDigit_of_mem_toDigits (value : Nat) :
    ∀ digit ∈ Nat.toDigits 16 value, isHexDigit digit = true := by
  induction value using Nat.base_induction 16 (by decide) with
  | single digit small =>
    rw [Nat.toDigits_of_lt_base small]
    intro other mem
    rw [List.mem_singleton.mp mem]
    exact isHexDigit_digitChar digit small
  | digit value last small positive ih =>
    rw [← Nat.toDigits_append_toDigits (by decide) positive small,
      Nat.toDigits_of_lt_base small, List.forall_mem_append, List.forall_mem_singleton]
    exact ⟨ih, isHexDigit_digitChar last small⟩

theorem isHexDigit_of_mem {width value : Nat} :
    ∀ digit ∈ hexadecimal width value, isHexDigit digit = true := by
  rw [hexadecimal, List.leftpad, List.forall_mem_append]
  refine ⟨fun digit mem => ?_, isHexDigit_of_mem_toDigits value⟩
  rw [List.eq_of_mem_replicate mem]
  rfl

theorem hexValue_append_singleton (digits : List Char) (last : Char) :
    hexValue (digits ++ [last]) = 16 * hexValue digits + hexDigitValue last := by
  rw [hexValue, hexValue, List.foldl_append, List.foldl_cons, List.foldl_nil]

theorem hexValue_toDigits (value : Nat) : hexValue (Nat.toDigits 16 value) = value := by
  induction value using Nat.base_induction 16 (by decide) with
  | single digit small =>
    rw [Nat.toDigits_of_lt_base small, hexValue, List.foldl_cons, List.foldl_nil,
      hexDigitValue_digitChar digit small, Nat.mul_zero, Nat.zero_add]
  | digit value last small positive ih =>
    rw [← Nat.toDigits_append_toDigits (by decide) positive small,
      Nat.toDigits_of_lt_base small, hexValue_append_singleton, ih,
      hexDigitValue_digitChar last small]

theorem hexValue_zeros (zeros : Nat) (digits : List Char) :
    hexValue (List.replicate zeros '0' ++ digits) = hexValue digits := by
  induction zeros with
  | zero => rfl
  | succ zeros ih => exact ih

/-- **The number is read back.** -/
theorem hexValue_hexadecimal (width value : Nat) : hexValue (hexadecimal width value) = value := by
  rw [hexadecimal, List.leftpad, hexValue_zeros, hexValue_toDigits]

theorem hexadecimal_injective (width : Nat) : Function.Injective (hexadecimal width) := by
  intro first second same
  rw [← hexValue_hexadecimal width first, same, hexValue_hexadecimal]

end Rstream.Library
