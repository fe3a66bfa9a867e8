import Mathlib.Algebra.Order.Ring.Nat
import Mathlib.Data.List.Basic
import Mathlib.Order.Basic

/-!
# Numbers as strings of digits

A number below `10 ^ width` is determined by its `width` digits. For strings of one width
the lexicographic order is the order of the numbers, also when more text of one width
follows.
-/

namespace Rstream.Library

open Nat

/-- The last `width` decimal digits of a number in ASCII, the most significant first. -/
def decimal : Nat → Nat → List UInt8
  | 0, _ => []
  | width + 1, value =>
    UInt8.ofNat (48 + value / 10 ^ width % 10) :: decimal width (value % 10 ^ width)

@[simp] theorem length_decimal (width value : Nat) : (decimal width value).length = width := by
  induction width generalizing value with
  | zero => rfl
  | succ width ih => rw [decimal, List.length_cons, ih]

variable {width first second : Nat}

/-- The digits of a number that is put together from its first digit and the rest. -/
theorem decimal_succ {digit value : Nat} (first : digit < 10) (small : value < 10 ^ width) :
    decimal (width + 1) (digit * 10 ^ width + value) =
      UInt8.ofNat (48 + digit) :: decimal width value := by
  have positive : 0 < 10 ^ width := Nat.pow_pos (by decide)
  rw [decimal, add_comm (digit * 10 ^ width), add_mul_div_right _ _ positive,
    div_eq_of_lt small, zero_add, mod_eq_of_lt first, add_mul_mod_self_right,
    mod_eq_of_lt small]

theorem ofNat_digit_lt_iff (small : first < 10) (small' : second < 10) :
    UInt8.ofNat (48 + first) < UInt8.ofNat (48 + second) ↔ first < second := by
  rw [UInt8.lt_iff_toNat_lt, UInt8.toNat_ofNat', UInt8.toNat_ofNat']
  omega

theorem ofNat_digit_inj (small : first < 10) (small' : second < 10) :
    UInt8.ofNat (48 + first) = UInt8.ofNat (48 + second) ↔ first = second := by
  rw [← UInt8.toNat_inj, UInt8.toNat_ofNat', UInt8.toNat_ofNat']
  omega

theorem decimal_inj (small : first < 10 ^ width) (small' : second < 10 ^ width) :
    decimal width first = decimal width second ↔ first = second := by
  refine ⟨fun same => ?_, congrArg _⟩
  induction width generalizing first second with
  | zero => omega
  | succ width ih =>
    have positive : 0 < 10 ^ width := Nat.pow_pos (by decide)
    rw [pow_succ, mul_comm] at small small'
    have digit := Nat.div_lt_of_lt_mul (by rwa [Nat.mul_comm] at small : first < 10 ^ width * 10)
    have digit' := Nat.div_lt_of_lt_mul
      (by rwa [mul_comm] at small' : second < 10 ^ width * 10)
    rw [decimal, decimal, List.cons.injEq, mod_eq_of_lt digit, mod_eq_of_lt digit',
      ofNat_digit_inj digit digit'] at same
    have rest := ih (mod_lt _ positive) (mod_lt _ positive) same.2
    rw [← div_add_mod first (10 ^ width), ← div_add_mod second (10 ^ width), same.1, rest]

/-- **The order of strings of digits** is the order of the numbers. -/
theorem decimal_lt_iff (small : first < 10 ^ width) (small' : second < 10 ^ width) :
    decimal width first < decimal width second ↔ first < second := by
  induction width generalizing first second with
  | zero =>
    rw [pow_zero] at small small'
    exact iff_of_false (List.not_lt_nil _) (by omega)
  | succ width ih =>
    have positive : 0 < 10 ^ width := Nat.pow_pos (by decide)
    rw [pow_succ, mul_comm] at small small'
    have digit := Nat.div_lt_of_lt_mul (by rwa [Nat.mul_comm] at small : first < 10 ^ width * 10)
    have digit' := Nat.div_lt_of_lt_mul
      (by rwa [mul_comm] at small' : second < 10 ^ width * 10)
    have split := div_add_mod first (10 ^ width)
    have split' := div_add_mod second (10 ^ width)
    have below := mod_lt first positive
    have below' := mod_lt second positive
    rw [decimal, decimal, List.cons_lt_cons_iff, mod_eq_of_lt digit, mod_eq_of_lt digit',
      ofNat_digit_lt_iff digit digit', ofNat_digit_inj digit digit', ih below below']
    constructor
    · rintro (less | ⟨same, less⟩)
      · calc first = 10 ^ width * (first / 10 ^ width) + first % 10 ^ width := split.symm
          _ < 10 ^ width * (first / 10 ^ width) + 10 ^ width := Nat.add_lt_add_left below _
          _ = 10 ^ width * (first / 10 ^ width + 1) := rfl
          _ ≤ 10 ^ width * (second / 10 ^ width) := mul_le_mul_left _ less
          _ ≤ second := mul_div_le _ _
      · rw [← split, ← split', same]
        exact Nat.add_lt_add_left less _
    · intro less
      rcases Nat.lt_or_eq_of_le (Nat.div_le_div_right (c := 10 ^ width) less.le) with digits | same
      · exact .inl digits
      · refine .inr ⟨same, ?_⟩
        rw [← split, ← split', same] at less
        exact lt_of_add_lt_add_left less

/-- The order of strings whose first parts have one length. -/
theorem append_lt_append_iff {α : Type*} [LT α] {first second rest rest' : List α}
    (same : first.length = second.length) :
    first ++ rest < second ++ rest' ↔ first < second ∨ first = second ∧ rest < rest' := by
  induction first generalizing second with
  | nil =>
    cases second with
    | nil => simp
    | cons _ _ => simp at same
  | cons head tail ih =>
    cases second with
    | nil => simp at same
    | cons head' tail' =>
      rw [List.cons_append, List.cons_append, List.cons_lt_cons_iff, List.cons_lt_cons_iff,
        ih (by simpa using same), List.cons.injEq]
      tauto

end Rstream.Library
