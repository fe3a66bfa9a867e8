import Mathlib.Data.List.TakeWhile
import Rstream.Core.Buffer

/-!
# The sizes of a range of a buffer

`get_size_range` computes three numbers: the bytes of the range, the spare bytes before the
first of them, and the spare bytes behind the last. All but one of its additions are checked or
stay within one block. The exception is the offset: the spare bytes of the empty blocks before
the first non-empty block, plus the offset of that block. It wraps when the empty blocks reach
far enough, and the wrapped offset then makes `*p_maxsize` too small as well
(`getSizes_exact_iff`).
-/

namespace Rstream.Core

open Library List
open IoRstrm

namespace Memory

/-- The window is empty. -/
def isEmpty (memory : Memory) : Bool := memory.size = 0

/-- The spare bytes behind the window. -/
def spare (memory : Memory) : Nat := memory.base.length - (memory.offset + memory.size)

end Memory

/-- The bytes of the bases of some blocks. -/
def capacity (blocks : List Memory) : Nat := (blocks.map fun memory => memory.base.length).sum

/-- The bytes of the windows of some blocks. -/
def totalSize (blocks : List Memory) : Nat := (blocks.map fun memory => memory.size).sum

/-- The spare bytes before the data of the first non-empty block. -/
def spareBefore (blocks : List Memory) : Nat :=
  match blocks.dropWhile Memory.isEmpty with
  | [] => 0
  | first :: _ => capacity (blocks.takeWhile Memory.isEmpty) + first.offset

/-- The spare bytes behind the data of the last non-empty block, those of all blocks when they
are empty. -/
def spareBehind (blocks : List Memory) : Nat :=
  match blocks.reverse.dropWhile Memory.isEmpty with
  | [] => capacity blocks
  | last :: _ => last.spare + capacity (blocks.reverse.takeWhile Memory.isEmpty)

/-- The sums that a round of the loop of `get_size_range` evaluates, in exact arithmetic. A sum
that is checked is evaluated only if the check lets it pass. -/
def Extent.roundSums (extent : Extent) (memory : Memory) : List Nat :=
  if memory.offset > memory.base.length ∨
      memory.size > memory.base.length - memory.offset then []
  else if memory.size ≠ 0 then
    (if extent.size = 0 then [extent.extra + memory.offset] else []) ++
      if extent.size + memory.size < sizeRange then
        [extent.size + memory.size, memory.offset + memory.size] else []
  else if extent.extra + memory.base.length < sizeRange then [extent.extra + memory.base.length]
  else []

def loopSums : List Memory → Extent → List Nat
  | [], _ => []
  | memory :: rest, extent =>
    extent.roundSums memory ++
      match extent.add memory with
      | .ok next => loopSums rest next
      | .error _ => []

/-- The sums of `*p_maxsize`. -/
def Extent.maxSizeSums (extent : Extent) : List Nat :=
  if extent.offset + extent.size < sizeRange then
    (extent.offset + extent.size) ::
      if extent.offset + extent.size + extent.extra < sizeRange then
        [extent.offset + extent.size + extent.extra] else []
  else []

namespace Buffer

/-- The blocks of a range. -/
def range (buffer : Buffer) (index rangeLength : Nat) : List Memory :=
  (buffer.blocks.drop index).take rangeLength

/-- `get_size_range` with both pointers: the size, the offset and the maximal size. -/
def getSizes (buffer : Buffer) (index : Nat) (length : Int) :
    Except ErrorCode (Nat × Nat × Nat) := do
  let extent ← buffer.getSizeRange index length
  let maxSize ← extent.maxSize
  pure (extent.size, extent.offset, maxSize)

end Buffer

/-! ## One round -/

theorem checkSizeAdd_cases (base value : Nat) (bounded : base < sizeRange) :
    base + value < sizeRange ∧ checkSizeAdd base value = .ok () ∨
      ¬ base + value < sizeRange ∧ checkSizeAdd base value = .error Error.Code.invalidSize := by
  by_cases fits : base + value < sizeRange
  · exact .inl ⟨fits, checkSizeAdd_of_lt fits⟩
  · refine .inr ⟨fits, ?_⟩
    rw [checkSizeAdd, if_pos (by omega)]

theorem Memory.sound (memory : Memory) : ¬ (memory.offset > memory.base.length ∨
    memory.size > memory.base.length - memory.offset) := by
  have within := memory.within
  omega

/-- The accumulators hold values of `std::size_t`. -/
structure Extent.Bounded (extent : Extent) : Prop where
  size : extent.size < sizeRange
  offset : extent.offset < sizeRange
  extra : extent.extra < sizeRange

variable {extent : Extent} {memory : Memory} {blocks : List Memory} {extra : Nat}

/-- A round over an empty block. -/
theorem Extent.add_empty (empty : memory.size = 0) :
    extent.add memory = (checkSizeAdd extent.extra memory.base.length).map fun _ =>
      { extent with extra := extent.extra + memory.base.length } := by
  rw [add, if_neg memory.sound, if_neg (not_not.mpr empty)]
  cases checkSizeAdd extent.extra memory.base.length with
  | error errorCode | ok value => rfl

/-- A round over a block with data. -/
theorem Extent.add_data (data : memory.size ≠ 0) :
    extent.add memory = (checkSizeAdd extent.size memory.size).map fun _ =>
      ⟨extent.size + memory.size,
        if extent.size = 0 then (extent.extra + memory.offset) % sizeRange else extent.offset,
        memory.spare⟩ := by
  rw [add, if_neg memory.sound, if_pos data]
  cases checkSizeAdd extent.size memory.size with
  | error errorCode | ok value => rfl

/-! ## The sums -/

/-- Behind `extra` spare bytes, the empty blocks before the first block with data and the offset
of that block fit into `std::size_t`, unless the empty blocks alone do not. -/
def LeadingFits (extra : Nat) (blocks : List Memory) : Prop :=
  ∀ lead first rest, blocks = lead ++ first :: rest → (∀ memory ∈ lead, memory.size = 0) →
    first.size ≠ 0 → extra + capacity lead < sizeRange →
      extra + capacity lead + first.offset < sizeRange

theorem leadingFits_nil (extra : Nat) : LeadingFits extra [] := by
  intro lead first rest same
  cases lead with
  | nil | cons _ _ => contradiction

theorem leadingFits_cons_empty (empty : memory.size = 0) : LeadingFits extra (memory :: blocks) ↔
      LeadingFits (extra + memory.base.length) blocks := by
  have shifted (lead : List Memory) :
      extra + capacity (memory :: lead) = extra + memory.base.length + capacity lead := by
    rw [capacity, map_cons, sum_cons, ← Nat.add_assoc]
    rfl
  constructor
  · intro fits lead first rest same empties data bounded
    have further := fits (memory :: lead) first rest (by rw [same, cons_append])
      (by simpa using ⟨empty, empties⟩) data
    rw [shifted] at further
    exact further bounded
  · intro fits lead first rest same empties data bounded
    cases lead with
    | nil =>
      cases same
      exact absurd empty data
    | cons other lead =>
      obtain ⟨rfl, rfl⟩ := cons.inj same
      rw [shifted] at bounded ⊢
      exact fits lead first rest rfl (fun m mem => empties m (mem_cons_of_mem _ mem)) data
        bounded

theorem leadingFits_cons_data (data : memory.size ≠ 0) : LeadingFits extra (memory :: blocks) ↔
      (extra < sizeRange → extra + memory.offset < sizeRange) := by
  constructor
  · intro fits
    exact fits [] memory blocks rfl (by simp) data
  · intro fits lead first rest same empties _ bounded
    cases lead with
    | nil =>
      cases same
      exact fits bounded
    | cons other lead =>
      obtain ⟨rfl, -⟩ := cons.inj same
      exact absurd (empties _ mem_cons_self) data

theorem leadingFits_of_le (far : sizeRange ≤ extra) (blocks : List Memory) :
    LeadingFits extra blocks := by
  intro lead first rest _ _ _ bounded
  omega

/-- **The sums of the loop** fit exactly when the leading spare bytes do. -/
theorem loopSums_lt_iff (blocks : List Memory) (bounded : extent.Bounded) :
    (∀ sum ∈ loopSums blocks extent, sum < sizeRange) ↔
      (extent.size = 0 → LeadingFits extent.extra blocks) := by
  induction blocks generalizing extent with
  | nil => simp [loopSums, leadingFits_nil]
  | cons memory rest ih =>
    rw [loopSums, Extent.roundSums, if_neg memory.sound]
    by_cases empty : memory.size = 0
    · rw [if_neg (not_not.mpr empty), Extent.add_empty empty, leadingFits_cons_empty empty]
      rcases checkSizeAdd_cases extent.extra memory.base.length bounded.extra with
        ⟨fits, checked⟩ | ⟨exceeds, checked⟩
      · have next := @ih { extent with extra := extent.extra + memory.base.length }
          ⟨bounded.size, bounded.offset, fits⟩
        rw [if_pos fits, checked]
        simpa [Except.map, fits] using next
      · rw [if_neg exceeds, checked]
        simp [Except.map, leadingFits_of_le (Nat.le_of_not_lt exceeds)]
    · have within := memory.within
      have whole := memory.bounded
      rw [if_pos empty, Extent.add_data empty, leadingFits_cons_data empty]
      -- behind a block with data every sum is checked
      have later {next : Extent} (bounds : next.Bounded) (some : next.size ≠ 0) :
          ∀ sum ∈ loopSums rest next, sum < sizeRange :=
        (ih bounds).mpr fun none => absurd none some
      have offset : (if extent.size = 0 then (extent.extra + memory.offset) % sizeRange
          else extent.offset) < sizeRange := by
        split
        · exact Nat.mod_lt _ (by decide)
        · exact bounded.offset
      have spare : memory.spare < sizeRange := by
        rw [Memory.spare]
        omega
      have round : (∀ sum ∈ if extent.size = 0 then [extent.extra + memory.offset] else [],
          sum < sizeRange) ↔
          (extent.size = 0 → extent.extra < sizeRange →
            extent.extra + memory.offset < sizeRange) := by
        by_cases first : extent.size = 0
        · simp [first, bounded.extra]
        · simp [first]
      rcases checkSizeAdd_cases extent.size memory.size bounded.size with
        ⟨fits, checked⟩ | ⟨exceeds, checked⟩
      · rw [if_pos fits, checked]
        have rest := @later ⟨extent.size + memory.size, _, memory.spare⟩ ⟨fits, offset, spare⟩
          (by show extent.size + memory.size ≠ 0; omega)
        rw [forall_mem_append, forall_mem_append, round]
        constructor
        · rintro ⟨⟨leading, -⟩, -⟩
          exact leading
        · intro leading
          refine ⟨⟨leading, ?_⟩, rest⟩
          simp only [forall_mem_cons, not_mem_nil, false_implies, implies_true, and_true]
          omega
      · rw [if_neg exceeds, checked, append_nil]
        show (∀ sum ∈ _ ++ [], sum < sizeRange) ↔ _
        rw [append_nil]
        exact round

/-! ## The values -/

/-- The accumulators describe the blocks they have passed. -/
structure Extent.Describes (extent : Extent) (blocks : List Memory) : Prop where
  size : extent.size = totalSize blocks
  offset : extent.offset = spareBefore blocks
  extra : extent.extra = spareBehind blocks

theorem totalSize_append (front : List Memory) (memory : Memory) :
    totalSize (front ++ [memory]) = totalSize front + memory.size := by
  simp [totalSize]

theorem capacity_append (front : List Memory) (memory : Memory) :
    capacity (front ++ [memory]) = capacity front + memory.base.length := by
  simp [capacity]

theorem totalSize_eq_zero : totalSize blocks = 0 ↔ ∀ memory ∈ blocks, memory.isEmpty = true := by
  rw [totalSize, List.sum_eq_zero_iff_forall_eq_nat]
  simp [Memory.isEmpty]

theorem spareBehind_of_empty (empty : totalSize blocks = 0) :
    spareBehind blocks = capacity blocks := by
  rw [totalSize_eq_zero] at empty
  have all : blocks.reverse.dropWhile Memory.isEmpty = [] := by
    rw [dropWhile_eq_nil_iff]
    intro memory mem
    exact empty memory (mem_reverse.mp mem)
  rw [spareBehind, all]

/-- The spare bytes behind one block more. -/
theorem spareBehind_append (front : List Memory) (memory : Memory) :
    spareBehind (front ++ [memory]) =
      if memory.size = 0 then spareBehind front + memory.base.length else memory.spare := by
  rw [spareBehind, reverse_append, reverse_singleton, singleton_append,
    dropWhile_cons, takeWhile_cons]
  by_cases empty : memory.size = 0
  · rw [if_pos empty, if_pos (by simpa [Memory.isEmpty] using empty),
      if_pos (by simpa [Memory.isEmpty] using empty), spareBehind]
    cases front.reverse.dropWhile Memory.isEmpty with
    | nil => exact capacity_append front memory
    | cons last _ =>
      simp [capacity]
      omega
  · rw [if_neg empty, if_neg (by simpa [Memory.isEmpty] using empty),
      if_neg (by simpa [Memory.isEmpty] using empty)]
    simp [capacity]

/-- The spare bytes before the data, with one block more. -/
theorem spareBefore_append (front : List Memory) (memory : Memory) :
    spareBefore (front ++ [memory]) =
      if totalSize front = 0 then
        if memory.size = 0 then 0 else capacity front + memory.offset
      else spareBefore front := by
  by_cases empty : totalSize front = 0
  · have all := empty
    rw [totalSize_eq_zero] at all
    rw [if_pos empty, spareBefore, dropWhile_append_of_pos all,
      takeWhile_append_of_pos all]
    by_cases none : memory.size = 0
    · rw [if_pos none, dropWhile_cons, if_pos (by simpa [Memory.isEmpty] using none)]
      rfl
    · rw [if_neg none, dropWhile_cons, if_neg (by simpa [Memory.isEmpty] using none),
        takeWhile_cons, if_neg (by simpa [Memory.isEmpty] using none), append_nil]
  · have some : front.dropWhile Memory.isEmpty ≠ [] := by
      intro none
      exact empty (by rwa [totalSize_eq_zero, ← dropWhile_eq_nil_iff])
    have short : (front.takeWhile Memory.isEmpty).length ≠ front.length := by
      intro same
      have split := congrArg length (takeWhile_append_dropWhile (p := Memory.isEmpty)
        (l := front))
      rw [length_append] at split
      exact some (length_eq_zero_iff.mp (by omega))
    rw [if_neg empty, spareBefore, spareBefore, dropWhile_append, takeWhile_append,
      if_neg short, if_neg (by simpa using some)]
    cases found : front.dropWhile Memory.isEmpty with
    | nil => exact absurd found some
    | cons first rest => rfl

/-- One round, when its offset does not wrap. -/
theorem Extent.Describes.add {next : Extent} {front : List Memory}
    (describes : extent.Describes front) (round : extent.add memory = .ok next)
    (fits : extent.size = 0 → memory.size ≠ 0 → extent.extra + memory.offset < sizeRange) :
    next.Describes (front ++ [memory]) := by
  have first : extent.size = 0 ↔ totalSize front = 0 := by rw [describes.size]
  by_cases empty : memory.size = 0
  · rw [Extent.add_empty empty] at round
    cases checked : checkSizeAdd extent.extra memory.base.length with
    | error errorCode =>
      rw [checked] at round
      contradiction
    | ok _ =>
      rw [checked] at round
      cases round
      refine ⟨?_, ?_, ?_⟩
      · rw [totalSize_append, empty, Nat.add_zero]
        exact describes.size
      · show extent.offset = _
        rw [spareBefore_append, describes.offset, if_pos empty]
        split
        · rename_i none
          rw [totalSize_eq_zero] at none
          rw [spareBefore, dropWhile_eq_nil_iff.mpr none]
        · rfl
      · rw [spareBehind_append, if_pos empty, ← describes.extra]
  · rw [Extent.add_data empty] at round
    cases checked : checkSizeAdd extent.size memory.size with
    | error errorCode =>
      rw [checked] at round
      contradiction
    | ok _ =>
      rw [checked] at round
      cases round
      refine ⟨?_, ?_, ?_⟩
      · show extent.size + memory.size = _
        rw [totalSize_append, describes.size]
      · show (if extent.size = 0 then _ else extent.offset) = _
        rw [spareBefore_append, if_neg empty]
        by_cases none : extent.size = 0
        · rw [if_pos none, if_pos (first.mp none), Nat.mod_eq_of_lt (fits none empty),
            describes.extra, spareBehind_of_empty (first.mp none)]
        · rw [if_neg none, if_neg fun also => none (first.mpr also), describes.offset]
      · rw [spareBehind_append, if_neg empty]

theorem Extent.Bounded.add {next : Extent} (bounded : extent.Bounded)
    (round : extent.add memory = .ok next) : next.Bounded := by
  have within := memory.within
  have whole := memory.bounded
  by_cases empty : memory.size = 0
  · rw [Extent.add_empty empty] at round
    rcases checkSizeAdd_cases extent.extra memory.base.length bounded.extra with
      ⟨fits, checked⟩ | ⟨-, checked⟩
    · rw [checked] at round
      cases round
      exact ⟨bounded.size, bounded.offset, fits⟩
    · rw [checked] at round
      contradiction
  · rw [Extent.add_data empty] at round
    rcases checkSizeAdd_cases extent.size memory.size bounded.size with
      ⟨fits, checked⟩ | ⟨-, checked⟩
    · rw [checked] at round
      cases round
      refine ⟨fits, ?_, ?_⟩
      · show (if extent.size = 0 then _ else _) < sizeRange
        split
        · exact Nat.mod_lt _ (by decide)
        · exact bounded.offset
      · show memory.base.length - (memory.offset + memory.size) < sizeRange
        omega
    · rw [checked] at round
      contradiction

/-- A round only throws `invalid_size`. -/
theorem Extent.add_error {errorCode : ErrorCode} (round : extent.add memory = .error errorCode) :
    errorCode = Error.Code.invalidSize := by
  have thrown {base value : Nat} {α : Type} {next : α}
      (checked : (checkSizeAdd base value).map (fun _ => next) = .error errorCode) :
      errorCode = Error.Code.invalidSize := by
    unfold checkSizeAdd at checked
    split at checked
    · cases checked
      rfl
    · cases checked
  by_cases empty : memory.size = 0
  · rw [Extent.add_empty empty] at round
    exact thrown round
  · rw [Extent.add_data empty] at round
    exact thrown round

theorem foldlM_add_error {errorCode : ErrorCode}
    (thrown : blocks.foldlM Extent.add extent = .error errorCode) :
    errorCode = Error.Code.invalidSize := by
  induction blocks generalizing extent with
  | nil => contradiction
  | cons memory rest ih =>
    rw [foldlM_cons] at thrown
    cases round : extent.add memory with
    | error other =>
      rw [round] at thrown
      cases thrown
      exact Extent.add_error round
    | ok next =>
      rw [round] at thrown
      exact ih thrown

/-- **The loop is exact** when the leading spare bytes fit. -/
theorem foldlM_add_exact {front : List Memory} {last : Extent} (describes : extent.Describes front)
    (bounded : extent.Bounded) (fits : extent.size = 0 → LeadingFits extent.extra blocks)
    (computed : blocks.foldlM Extent.add extent = .ok last) :
    last.Describes (front ++ blocks) ∧ last.Bounded := by
  induction blocks generalizing front extent with
  | nil =>
    cases computed
    rw [append_nil]
    exact ⟨describes, bounded⟩
  | cons memory rest ih =>
    rw [foldlM_cons] at computed
    obtain ⟨next, round, more⟩ := bind_eq_ok.mp computed
    have after := describes.add round fun none data =>
      (leadingFits_cons_data data).mp (fits none) bounded.extra
    have bounds := bounded.add round
    rw [append_cons]
    refine ih after bounds (fun none => ?_) more
    have size := Buffer.size_of_add round
    have empty : memory.size = 0 := by omega
    have extra : next.extra = extent.extra + memory.base.length := by
      rw [after.extra, spareBehind_append, if_pos empty, describes.extra]
    rw [extra]
    exact (leadingFits_cons_empty empty).mp (fits (by omega))

theorem describes_nil : Extent.Describes {} [] := ⟨rfl, rfl, rfl⟩

theorem bounded_initial : Extent.Bounded {} := ⟨by decide, by decide, by decide⟩

/-- `*p_maxsize` is exact, and its sums are checked. -/
theorem maxSize_exact (bounded : extent.Bounded) :
    (∀ sum ∈ extent.maxSizeSums, sum < sizeRange) ∧
      (extent.maxSize = .error Error.Code.invalidSize ∨
        extent.maxSize = .ok (extent.offset + extent.size + extent.extra)) := by
  rw [Extent.maxSizeSums, Extent.maxSize]
  rcases checkSizeAdd_cases extent.offset extent.size bounded.offset with
    ⟨fits, checked⟩ | ⟨exceeds, checked⟩
  · rw [if_pos fits, checked, ok_bind]
    rcases checkSizeAdd_cases (extent.offset + extent.size) extent.extra fits with
      ⟨also, second⟩ | ⟨exceeds, second⟩
    · rw [if_pos also, second]
      exact ⟨by simp [fits, also], .inr rfl⟩
    · rw [if_neg exceeds, second]
      exact ⟨by simp [fits], .inl rfl⟩
  · rw [if_neg exceeds, checked]
    exact ⟨by simp, .inl rfl⟩

namespace Buffer

/-- The sums that `get_size_range` evaluates over the blocks of a range. -/
def sizeSums (blocks : List Memory) : List Nat :=
  loopSums blocks {} ++
    match blocks.foldlM Extent.add {} with
    | .ok extent => extent.maxSizeSums
    | .error _ => []

/-- **When the sizes of a range are exact.** `get_size_range` throws `invalid_size` or returns
the exact sizes, without a sum that wraps, if and only if the spare bytes before the first data
of the range fit into `std::size_t`, or the empty blocks before it do not fit by themselves. -/
theorem getSizes_exact_iff (buffer : Buffer) (index : Nat) (length : Int) (rangeLength : Nat)
    (valid : buffer.processArgs index length = .ok rangeLength) :
    ((∀ sum ∈ sizeSums (buffer.range index rangeLength), sum < sizeRange) ∧
      (buffer.getSizes index length = .error Error.Code.invalidSize ∨
        buffer.getSizes index length = .ok (totalSize (buffer.range index rangeLength),
          spareBefore (buffer.range index rangeLength),
          spareBefore (buffer.range index rangeLength) + totalSize (buffer.range index rangeLength) +
            spareBehind (buffer.range index rangeLength)))) ↔
      LeadingFits 0 (buffer.range index rangeLength) := by
  have sums := loopSums_lt_iff (buffer.range index rangeLength) bounded_initial
  constructor
  · rintro ⟨all, -⟩
    exact sums.mp (fun sum mem => all sum (mem_append_left _ mem)) rfl
  · intro fits
    have loop := sums.mpr fun _ => fits
    have blocks : (buffer.blocks.drop index).take rangeLength = buffer.range index rangeLength := rfl
    rw [getSizes, getSizeRange, valid, ok_bind, blocks, sizeSums]
    cases computed : (buffer.range index rangeLength).foldlM Extent.add {} with
    | error errorCode =>
      rw [foldlM_add_error computed, append_nil]
      exact ⟨loop, .inl rfl⟩
    | ok extent =>
      obtain ⟨describes, bounded⟩ :=
        foldlM_add_exact describes_nil bounded_initial (fun _ => fits) computed
      rw [nil_append] at describes
      obtain ⟨checked, maxSize⟩ := maxSize_exact bounded
      rw [forall_mem_append]
      refine ⟨⟨loop, checked⟩, ?_⟩
      rcases maxSize with thrown | exact
      · left
        rw [ok_bind, thrown]
        rfl
      · right
        rw [ok_bind, exact, ← describes.size, ← describes.offset, ← describes.extra]
        rfl

/-- One byte at offset 1 behind an empty block of `SIZE_MAX` bytes. -/
theorem getSizes_far {far near : Memory} (empty : far.size = 0)
    (reach : far.base.length = sizeRange - 1) (data : near.size = 1) (moved : near.offset = 1)
    (full : near.base.length = 2) :
    (⟨[far, near]⟩ : Buffer).getSizes 0 (-1) = .ok (1, 0, 1) ∧
      spareBefore [far, near] = sizeRange := by
  have range : (⟨[far, near]⟩ : Buffer).processArgs 0 (-1) = .ok 2 :=
    processArgs_of_few (by show 2 ≤ intMax; decide)
  have first : Extent.add {} far = .ok ⟨0, 0, sizeRange - 1⟩ := by
    rw [Extent.add_empty empty, reach]
    rfl
  have second : Extent.add ⟨0, 0, sizeRange - 1⟩ near = .ok ⟨1, 0, 0⟩ := by
    rw [Extent.add_data (by omega), data, moved, Memory.spare, full, data, moved]
    rfl
  constructor
  · rw [getSizes, getSizeRange, range, ok_bind]
    show ([far, near].foldlM Extent.add {} >>= _) = _
    rw [foldlM_cons, first, ok_bind, foldlM_cons, second, ok_bind]
    rfl
  · simp [spareBefore, Memory.isEmpty, capacity, empty, reach, data, moved, sizeRange]

/-- An empty block of `SIZE_MAX` bytes. -/
def farBlock : Memory :=
  ⟨List.replicate (sizeRange - 1) 0, 0, 0, true, Nat.zero_le _, by
    rw [List.length_replicate]
    decide⟩

/-- One byte at offset 1. -/
def nearBlock : Memory := ⟨[0, 0], 1, 1, true, by decide, by decide⟩

/-- **The offset wraps**: one byte lies behind `2 ^ 64` spare bytes, and the offset is 0. -/
theorem offset_wraps : (⟨[farBlock, nearBlock]⟩ : Buffer).getSizes 0 (-1) = .ok (1, 0, 1) ∧
    spareBefore [farBlock, nearBlock] = sizeRange :=
  getSizes_far rfl length_replicate rfl rfl rfl

theorem nearBlock_fits : (⟨[nearBlock]⟩ : Buffer).getSizes 0 (-1) = .ok (1, 1, 2) ∧
    LeadingFits 0 ((⟨[nearBlock]⟩ : Buffer).range 0 1) := by
  refine ⟨by decide, ?_⟩
  refine (getSizes_exact_iff ⟨[nearBlock]⟩ 0 (-1) 1 (by decide)).mp ⟨?_, .inr (by decide)⟩
  decide

end Buffer

end Rstream.Core
