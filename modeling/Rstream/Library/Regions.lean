import Mathlib.Data.List.Basic
import Mathlib.Data.List.Range

/-!
# Regions of a memory

A memory gives an element for every index. A region of it is read as a list, and overwritten with
one; what was written is read again, and nothing else has changed.
-/

namespace Rstream.Library

universe u

variable {α : Type u}

/-- The elements of a region. -/
def region (memory : Nat → α) (start count : Nat) : List α :=
  (List.range' start count).map memory

/-- The memory with the elements written at the start of a region. -/
def overwrite (memory : Nat → α) (start : Nat) (elements : List α) : Nat → α := fun index =>
  if index < start then memory index else (elements[index - start]?).getD (memory index)

@[simp] theorem length_region (memory : Nat → α) (start count : Nat) :
    (region memory start count).length = count := by
  rw [region, List.length_map, List.length_range']

@[simp] theorem region_zero (memory : Nat → α) (start : Nat) : region memory start 0 = [] := rfl

/-- Regions side by side. -/
theorem region_add (memory : Nat → α) (start first second : Nat) :
    region memory start (first + second) =
      region memory start first ++ region memory (start + first) second := by
  rw [region, region, region, ← List.map_append, List.range'_append_1]

variable {start count index : Nat} {elements : List α}

theorem region_congr {memory other : Nat → α}
    (same : ∀ index, start ≤ index → index < start + count → memory index = other index) :
    region memory start count = region other start count := by
  refine List.map_congr_left fun index mem => ?_
  obtain ⟨above, below⟩ := List.mem_range'_1.mp mem
  exact same index above below

/-- Memories with the same region have the same elements there. -/
theorem eq_of_region_eq {memory other : Nat → α}
    (same : region memory start count = region other start count) (above : start ≤ index)
    (below : index < start + count) : memory index = other index :=
  List.map_inj_left.mp same index (List.mem_range'_1.mpr ⟨above, below⟩)

theorem take_drop_region (memory : Nat → α) {offset length : Nat} (within : offset + length ≤ count)
    :
    ((region memory start count).drop offset).take length =
      region memory (start + offset) length := by
  obtain ⟨rest, rfl⟩ := Nat.exists_eq_add_of_le within
  have front := region_add memory start offset (length + rest)
  rw [← Nat.add_assoc] at front
  rw [front, List.drop_left' (length_region ..), region_add,
    List.take_left' (length_region ..)]

theorem overwrite_outside (memory : Nat → α)
    (outside : index < start ∨ start + elements.length ≤ index) :
    overwrite memory start elements index = memory index := by
  rw [overwrite]
  split
  · rfl
  · rename_i notBefore
    rw [List.getElem?_eq_none (by omega), Option.getD_none]

/-- What was written does not depend on what was there. -/
theorem overwrite_inside (memory other : Nat → α) (above : start ≤ index)
    (below : index < start + elements.length) :
    overwrite memory start elements index = overwrite other start elements index := by
  rw [overwrite, overwrite, if_neg (by omega), if_neg (by omega),
    List.getElem?_eq_getElem (by omega), Option.getD_some, Option.getD_some]

/-- **What was written is read again.** -/
theorem region_overwrite (memory : Nat → α) (start : Nat) (elements : List α) :
    region (overwrite memory start elements) start elements.length = elements := by
  refine List.ext_getElem (length_region ..) fun position inside also => ?_
  have index : start + position - start = position := Nat.add_sub_cancel_left start position
  simp [region, overwrite, index, List.getElem?_eq_getElem also]

/-- A region apart from what was written. -/
theorem region_overwrite_of_disjoint (memory : Nat → α) {from_ : Nat}
    (apart : from_ + count ≤ start ∨ start + elements.length ≤ from_) :
    region (overwrite memory start elements) from_ count = region memory from_ count := by
  refine region_congr fun index above below => overwrite_outside memory ?_
  omega

end Rstream.Library
