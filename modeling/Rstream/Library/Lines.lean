import Mathlib.Algebra.Order.Ring.Nat
import Mathlib.Data.List.Basic

/-!
# Lines of a text

A text is split at a separator that ends each of its lines. Lines that do not contain the
separator can be written one after the other and read back; in any case the number of lines of
what was written is the number of separators in it.
-/

namespace Rstream.Library

universe u

variable {α : Type u} [DecidableEq α] {newline : α}

/-- The lines of a text; the last one need not be ended. -/
def lines (newline : α) : List α → List (List α)
  | [] => []
  | char :: text =>
    if char = newline then [] :: lines newline text
    else match lines newline text with
      | [] => [[char]]
      | line :: rest => (char :: line) :: rest

/-- The text of some lines, each of which is ended. -/
def unlines (newline : α) (texts : List (List α)) : List α :=
  texts.flatMap fun line => line ++ [newline]

omit [DecidableEq α] in
theorem unlines_append (first second : List (List α)) :
    unlines newline (first ++ second) = unlines newline first ++ unlines newline second :=
  List.flatMap_append

/-- A line without the separator is read back. -/
theorem lines_append {line : List α} (whole : newline ∉ line) (text : List α) :
    lines newline (line ++ newline :: text) = line :: lines newline text := by
  induction line with
  | nil => rw [List.nil_append, lines, if_pos rfl]
  | cons char line ih =>
    obtain ⟨other, rest⟩ := not_or.mp (List.mem_cons.not.mp whole)
    rw [List.cons_append, lines, if_neg (Ne.symm other), ih rest]

/-- **Lines without the separator are read back.** -/
theorem lines_unlines {texts : List (List α)} (whole : ∀ line ∈ texts, newline ∉ line) :
    lines newline (unlines newline texts) = texts := by
  induction texts with
  | nil => rfl
  | cons line texts ih =>
    rw [unlines, List.flatMap_cons, List.append_assoc, List.singleton_append,
      lines_append (whole line List.mem_cons_self)]
    exact congrArg _ (ih fun other mem => whole other (List.mem_cons_of_mem _ mem))

theorem length_lines_append (line text : List α) :
    (lines newline (line ++ newline :: text)).length =
      line.count newline + 1 + (lines newline text).length := by
  induction line with
  | nil =>
    rw [List.nil_append, lines, if_pos rfl, List.length_cons, List.count_nil]
    omega
  | cons char line ih =>
    rw [List.cons_append, lines]
    by_cases same : char = newline
    · rw [if_pos same, List.length_cons, ih, same, List.count_cons_self]
      omega
    · rw [if_neg same, List.count_cons_of_ne same, ← ih]
      cases found : lines newline (line ++ newline :: text) with
      | nil =>
        rw [found, List.length_nil] at ih
        omega
      | cons _ _ => rfl

/-- **The number of lines** that are read from what was written. -/
theorem length_lines_unlines (texts : List (List α)) :
    (lines newline (unlines newline texts)).length =
      texts.length + (texts.map fun line => line.count newline).sum := by
  induction texts with
  | nil => rfl
  | cons line texts ih =>
    rw [unlines, List.flatMap_cons, List.append_assoc, List.singleton_append,
      length_lines_append, List.map_cons, List.sum_cons, List.length_cons]
    have rest : (lines newline (texts.flatMap fun line => line ++ [newline])).length = _ := ih
    rw [rest]
    omega

end Rstream.Library
