import Rstream.Core.Buffer

/-!
# Resizing a buffer

`resize_range_checked` narrows or widens the windows of the blocks one after another.
All blocks but the last can only be narrowed: each of them keeps the part of its window
that lies inside the requested range, which never fails. The last block takes what is
left of the request, so the request succeeds exactly when it ends before the end of the
base of the last block.

The bounds checks compare the request with the capacity that `get_size` reports, which
also counts spare bytes that only a block in the middle has. A request that needs such
bytes passes the checks and then fails at the last block, after the blocks before it
have been moved.
-/

namespace Rstream.Core

open Library List Nat
open IoRstrm

namespace Memory

/-- The bytes from the start of the window to the end of the base. -/
def room (memory : Memory) : Nat := memory.base.length - memory.offset

/-- `m_offset` and `m_size`. -/
def window (memory : Memory) : Nat × Nat := (memory.offset, memory.size)

/-- The window moved by `offset` with the given size. -/
def moved (memory : Memory) (offset size : Nat) (fits : offset + size ≤ memory.room) : Memory :=
  { memory with
    offset := memory.offset + offset
    size := size
    within := by
      have within := memory.within
      rw [room] at fits
      omega }

theorem size_le_room (memory : Memory) : memory.size ≤ memory.room := by
  have within := memory.within
  rw [room]
  omega

variable {size : Nat}

theorem resize_of_fits {memory : Memory} {offset : Nat} (fits : offset + size ≤ memory.room) :
    memory.resize offset size = .ok (memory.moved offset size fits) := by
  have within := memory.within
  rw [room] at fits
  rw [resize, if_neg (by omega), dif_neg (by omega)]
  rfl

theorem resize_of_exceeds {memory : Memory} {offset : Nat} (exceeds : memory.room < offset + size) :
    memory.resize offset size = .error Error.Code.invalidSize := by
  have within := memory.within
  rw [room] at exceeds
  rw [resize, if_neg (by omega), dif_pos (by omega)]

/-- The part of the window inside the range of `size` bytes at `offset` of the window. -/
def kept (memory : Memory) (offset size : Nat) : Memory :=
  { memory with
    offset := memory.offset + if memory.size ≤ offset then 0 else offset
    size := min (memory.size - offset) size
    within := by
      have within := memory.within
      split <;> omega }

theorem bytes_kept (memory : Memory) (offset size : Nat) :
    (memory.kept offset size).bytes = (memory.bytes.drop offset).take size := by
  have within := memory.within
  show (memory.base.drop (memory.offset + if memory.size ≤ offset then 0 else offset)).take
    (min (memory.size - offset) size) = _
  rw [bytes, drop_take, drop_drop, take_take]
  by_cases outside : memory.size ≤ offset
  · rw [Nat.sub_eq_zero_of_le outside, Nat.zero_min, Nat.min_zero, take_zero, take_zero]
  · rw [if_neg outside, Nat.min_comm]

theorem bytes_moved (memory : Memory) (offset size : Nat) (fits : offset + size ≤ memory.room)
    (inside : offset + size ≤ memory.size) :
    (memory.moved offset size fits).bytes = (memory.bytes.drop offset).take size := by
  show (memory.base.drop (memory.offset + offset)).take size = _
  rw [bytes, drop_take, drop_drop, take_take, Nat.min_eq_left (by omega)]

/-- The window is not touched when the range covers it. -/
theorem kept_whole (memory : Memory) (covers : memory.size ≤ size) :
    memory.kept 0 size = memory := by
  have same : (if memory.size ≤ 0 then 0 else 0) = 0 := ite_self 0
  obtain ⟨base, offset, length, writable, within, bounded⟩ := memory
  simp only [kept, same, Nat.add_zero, Nat.sub_zero, Nat.min_eq_left covers]

end Memory

namespace Buffer

/-- The loop of `resize_range_checked` on the blocks themselves: the blocks as they are when
it returns or throws, and the exception. -/
def resizeInPlace : List Memory → Nat → Nat → List Memory × Option ErrorCode
  | [], _, _ => ([], none)
  | memory :: rest, offset, size =>
    let (left, next, offset) :=
      if rest.isEmpty then (size, 0, offset)
      else if memory.size ≤ offset then (0, offset - memory.size, 0)
      else (min (memory.size - offset) size, 0, offset)
    match if offset ≠ 0 ∨ left ≠ memory.size then memory.resize offset left else .ok memory with
    | .error errorCode => (memory :: rest, some errorCode)
    | .ok memory =>
      let (rest, errorCode) := resizeInPlace rest next (size - left)
      (memory :: rest, errorCode)

/-- The bounds checks of `resize_range_checked`. -/
def InBounds (buffer : Buffer) (offset size : Nat) : Prop :=
  ∃ extent maxSize, buffer.getSizeRange 0 (-1) = .ok extent ∧ extent.maxSize = .ok maxSize ∧
    extent.offset ≤ maxSize ∧ offset ≤ maxSize - extent.offset ∧
    size ≤ maxSize - extent.offset - offset

/-- `resize(offset, size)` on the buffer itself: the buffer when the call is over, and the
exception. -/
def resized (buffer : Buffer) (offset size : Nat) : Buffer × Option ErrorCode :=
  match buffer.getSizeRange 0 (-1) with
  | .error errorCode => (buffer, some errorCode)
  | .ok extent =>
    match extent.maxSize with
    | .error errorCode => (buffer, some errorCode)
    | .ok maxSize =>
      if extent.offset > maxSize ∨ offset > maxSize - extent.offset then
        (buffer, some Error.Code.invalidSize)
      else if size > maxSize - extent.offset - offset then
        (buffer, some Error.Code.invalidSize)
      else if offset = 0 ∧ size = extent.size then (buffer, none)
      else
        let (blocks, errorCode) := resizeInPlace buffer.blocks offset size
        (⟨blocks⟩, errorCode)

/-! ## One round of the loop -/

/-- A block before the last one keeps what lies inside the range, and the rest of the
range is left to the blocks behind it. -/
theorem resizeInPlace_cons_cons (memory next : Memory) (rest : List Memory) (offset size : Nat) :
    resizeInPlace (memory :: next :: rest) offset size =
      (memory.kept offset size ::
          (resizeInPlace (next :: rest) (offset - memory.size)
            (size - (memory.size - offset))).1,
        (resizeInPlace (next :: rest) (offset - memory.size)
          (size - (memory.size - offset))).2) := by
  have inside := memory.size_le_room
  have left : size - min (memory.size - offset) size = size - (memory.size - offset) := by omega
  rw [resizeInPlace, isEmpty_cons, if_neg Bool.false_ne_true]
  by_cases outside : memory.size ≤ offset
  · have nothing : memory.size - offset = 0 := by omega
    have round : (if (0 : Nat) ≠ 0 ∨ 0 ≠ memory.size then memory.resize 0 0 else .ok memory) =
        .ok (memory.kept offset size) := by
      by_cases empty : 0 = memory.size
      · rw [if_neg (by omega)]
        congr 1
        obtain ⟨base, start, length, writable, within, bounded⟩ := memory
        simp only at empty
        simp only [Memory.kept, if_pos outside, add_zero, Memory.mk.injEq, true_and,
          and_true]
        omega
      · rw [if_pos (.inr empty), Memory.resize_of_fits (by omega)]
        congr 1
        simp only [Memory.kept, Memory.moved, if_pos outside, nothing, Nat.zero_min]
    rw [if_pos outside]
    simp only [round]
    rw [nothing]
  · have round : (if offset ≠ 0 ∨ min (memory.size - offset) size ≠ memory.size then
        memory.resize offset (min (memory.size - offset) size) else .ok memory) =
        .ok (memory.kept offset size) := by
      by_cases same : offset ≠ 0 ∨ min (memory.size - offset) size ≠ memory.size
      · rw [if_pos same, Memory.resize_of_fits (by omega)]
        congr 1
        simp only [Memory.kept, Memory.moved, if_neg outside]
      · rw [if_neg same]
        congr 1
        push Not at same
        rw [same.1, Memory.kept_whole memory (by omega)]
    have past : offset - memory.size = 0 := by omega
    rw [if_neg outside]
    simp only [round]
    rw [left, past]

variable {size offset : Nat} {memory : Memory} {buffer : Buffer}

theorem resizeInPlace_singleton (memory : Memory) (offset size : Nat) :
    resizeInPlace [memory] offset size =
      match if offset ≠ 0 ∨ size ≠ memory.size then memory.resize offset size else .ok memory with
      | .error errorCode => ([memory], some errorCode)
      | .ok memory => ([memory], none) := rfl

/-- The last block takes what is left of the range. -/
theorem resizeInPlace_last (fits : offset + size ≤ memory.room) :
    resizeInPlace [memory] offset size = ([memory.moved offset size fits], none) := by
  have round : (if offset ≠ 0 ∨ size ≠ memory.size then memory.resize offset size
      else .ok memory) = .ok (memory.moved offset size fits) := by
    by_cases same : offset ≠ 0 ∨ size ≠ memory.size
    · rw [if_pos same, Memory.resize_of_fits fits]
    · rw [if_neg same]
      push Not at same
      obtain ⟨rfl, rfl⟩ := same
      rfl
  rw [resizeInPlace_singleton, round]

theorem resizeInPlace_last_exceeds (exceeds : memory.room < offset + size) :
    resizeInPlace [memory] offset size =
      ([memory], some Error.Code.invalidSize.toErrorCode) := by
  have inside := memory.size_le_room
  rw [resizeInPlace_singleton, if_pos (by omega), Memory.resize_of_exceeds exceeds]

/-! ## When the loop succeeds -/

/-- The bytes up to the end of the base of the last block. -/
def reach : List Memory → Nat
  | [] => 0
  | [memory] => memory.room
  | memory :: next :: rest => memory.size + reach (next :: rest)

theorem reach_singleton (memory : Memory) : reach [memory] = memory.room := rfl

theorem reach_cons_cons (memory next : Memory) (rest : List Memory) :
    reach (memory :: next :: rest) = memory.size + reach (next :: rest) := rfl

theorem sum_sizes_le_reach : ∀ blocks : List Memory, (blocks.map (·.size)).sum ≤ reach blocks
  | [] => Nat.le_refl 0
  | [memory] => by
      have inside := memory.size_le_room
      simpa [reach_singleton] using inside
  | memory :: next :: rest => by
      have behind := sum_sizes_le_reach (next :: rest)
      rw [map_cons, sum_cons, reach_cons_cons]
      omega

/-- The loop throws exactly when the range ends behind the base of the last block. -/
theorem resizeInPlace_eq_none_iff : ∀ (blocks : List Memory) (offset size : Nat),
    blocks ≠ [] → ((resizeInPlace blocks offset size).2 = none ↔ offset + size ≤ reach blocks)
  | [], _, _, filled => absurd rfl filled
  | [memory], offset, size, _ => by
      rw [reach_singleton]
      by_cases fits : offset + size ≤ memory.room
      · rw [resizeInPlace_last fits]
        exact ⟨fun _ => fits, fun _ => rfl⟩
      · rw [resizeInPlace_last_exceeds (by omega)]
        exact ⟨nofun, fun inside => absurd inside fits⟩
  | memory :: next :: rest, offset, size, _ => by
      rw [resizeInPlace_cons_cons, resizeInPlace_eq_none_iff _ _ _ (cons_ne_nil _ _),
        reach_cons_cons]
      constructor <;> intro inside
      · -- The block keeps `memory.size - offset` bytes of the range at most.
        by_cases short : size ≤ memory.size - offset
        · have behind := sum_sizes_le_reach (next :: rest)
          omega
        · omega
      · omega

/-- The windows add up to the requested size. -/
theorem sum_sizes_resizeInPlace : ∀ (blocks : List Memory) (offset size : Nat), blocks ≠ [] →
    (resizeInPlace blocks offset size).2 = none →
    ((resizeInPlace blocks offset size).1.map (·.size)).sum = size
  | [], _, _, filled, _ => absurd rfl filled
  | [memory], offset, size, filled, returned => by
      have fits : offset + size ≤ memory.room :=
        (resizeInPlace_eq_none_iff [memory] offset size filled).mp returned
      rw [resizeInPlace_last fits]
      exact add_zero size
  | memory :: next :: rest, offset, size, _, returned => by
      rw [resizeInPlace_cons_cons] at returned ⊢
      have behind := sum_sizes_resizeInPlace (next :: rest) _ _ (cons_ne_nil _ _) returned
      rw [map_cons, sum_cons, behind]
      show min (memory.size - offset) size + (size - (memory.size - offset)) = size
      omega

theorem length_resizeInPlace : ∀ (blocks : List Memory) (offset size : Nat),
    (resizeInPlace blocks offset size).1.length = blocks.length
  | [], _, _ => rfl
  | [memory], offset, size => by
      by_cases fits : offset + size ≤ memory.room
      · rw [resizeInPlace_last fits]
        rfl
      · rw [resizeInPlace_last_exceeds (by omega)]
  | memory :: next :: rest, offset, size => by
      rw [resizeInPlace_cons_cons, length_cons, length_resizeInPlace (next :: rest)]
      rfl

/-- A range inside the windows cuts the bytes of the windows to that range. -/
theorem bytes_resizeInPlace : ∀ (blocks : List Memory) (offset size : Nat),
    offset + size ≤ (blocks.map (·.size)).sum →
    (resizeInPlace blocks offset size).1.flatMap Memory.bytes =
      ((blocks.flatMap Memory.bytes).drop offset).take size
  | [], _, _, _ => by simp [resizeInPlace]
  | [memory], offset, size, inside => by
      have within : offset + size ≤ memory.size := by simpa using inside
      have fits := Nat.le_trans within memory.size_le_room
      rw [resizeInPlace_last fits, flatMap_singleton, flatMap_singleton,
        Memory.bytes_moved memory offset size fits within]
  | memory :: next :: rest, offset, size, inside => by
      rw [map_cons, sum_cons] at inside
      rw [resizeInPlace_cons_cons, flatMap_cons, Memory.bytes_kept, flatMap_cons,
        drop_append, take_append, length_drop, Memory.length_bytes]
      congr 1
      exact bytes_resizeInPlace (next :: rest) _ _ (by omega)

/-- The range of all visible bytes changes nothing. -/
theorem resizeInPlace_whole : ∀ blocks : List Memory,
    resizeInPlace blocks 0 (blocks.map (·.size)).sum = (blocks, none)
  | [] => rfl
  | [memory] => by
      have fits : 0 + ([memory].map (·.size)).sum ≤ memory.room := by
        simpa using memory.size_le_room
      rw [resizeInPlace_last fits]
      rfl
  | memory :: next :: rest => by
      have left : (memory.size + ((next :: rest).map (·.size)).sum) - (memory.size - 0) =
          ((next :: rest).map (·.size)).sum := by omega
      rw [map_cons, sum_cons, resizeInPlace_cons_cons, Nat.zero_sub, left,
        resizeInPlace_whole (next :: rest), Memory.kept_whole memory (le_add_right _ _)]

/-! ## The sizes after the loop -/

/-- The spare bytes that `get_size` adds up over consecutive empty windows stay within
`std::size_t` once the windows are those of the range of `size` bytes at `offset`; `extra`
are the spare bytes in front of the blocks. -/
def SparesFit : List Memory → Nat → Nat → Nat → Prop
  | [], _, _, _ => True
  | [memory], _, size, extra => size = 0 → extra + memory.base.length < sizeRange
  | memory :: next :: rest, offset, size, extra =>
    if min (memory.size - offset) size = 0 then
      extra + memory.base.length < sizeRange ∧
        SparesFit (next :: rest) (offset - memory.size) size (extra + memory.base.length)
    else
      SparesFit (next :: rest) 0 (size - (memory.size - offset))
        (memory.base.length - (memory.offset + offset + min (memory.size - offset) size))

/-- The loop of `get_size_range` returns. -/
def Counted (blocks : List Memory) (extent : Extent) : Prop :=
  ∃ last, blocks.foldlM Extent.add extent = .ok last

theorem counted_cons {rest : List Memory} {extent : Extent} :
    Counted (memory :: rest) extent ↔
      ∃ next, extent.add memory = .ok next ∧ Counted rest next := by
  constructor
  · rintro ⟨last, computed⟩
    rw [foldlM_cons] at computed
    obtain ⟨next, round, more⟩ := bind_eq_ok.mp computed
    exact ⟨next, round, last, more⟩
  · rintro ⟨next, round, last, more⟩
    refine ⟨last, ?_⟩
    rw [foldlM_cons, round, ok_bind, more]

theorem counted_nil (extent : Extent) : Counted [] extent := ⟨extent, rfl⟩

/-- An empty window adds its whole base to the spare bytes. -/
theorem counted_cons_empty (memory : Memory) (rest : List Memory) (extent : Extent)
    (empty : memory.size = 0) (small : extent.extra < sizeRange) :
    Counted (memory :: rest) extent ↔ extent.extra + memory.base.length < sizeRange ∧
      Counted rest { extent with extra := extent.extra + memory.base.length } := by
  have within := memory.within
  rw [counted_cons, Extent.add, if_neg (by omega), if_neg (not_not.mpr empty)]
  by_cases fits : extent.extra + memory.base.length < sizeRange
  · rw [checkSizeAdd_of_lt fits]
    constructor
    · rintro ⟨next, round, more⟩
      cases round
      exact ⟨fits, more⟩
    · rintro ⟨-, more⟩
      exact ⟨_, rfl, more⟩
  · rw [checkSizeAdd, if_pos (by omega)]
    constructor
    · rintro ⟨next, round, -⟩
      cases round
    · rintro ⟨inside, -⟩
      exact absurd inside fits

/-- A window with bytes leaves the spare bytes behind it. -/
theorem counted_cons_filled (memory : Memory) (rest : List Memory) (extent : Extent)
    (filled : memory.size ≠ 0) (fits : extent.size + memory.size < sizeRange) :
    ∃ offset, Counted (memory :: rest) extent ↔
      Counted rest ⟨extent.size + memory.size, offset,
        memory.base.length - (memory.offset + memory.size)⟩ := by
  have within := memory.within
  rw [counted_cons, Extent.add, if_neg (by omega), if_pos filled, checkSizeAdd_of_lt fits]
  refine ⟨_, ?_, fun more => ⟨_, rfl, more⟩⟩
  rintro ⟨next, round, more⟩
  cases round
  exact more

/-- The sizes after the loop can be added up exactly when the spare bytes fit. -/
theorem counted_resizeInPlace : ∀ (blocks : List Memory) (offset size : Nat) (extent : Extent),
    offset + size ≤ reach blocks → extent.size + size < sizeRange → extent.extra < sizeRange →
    (Counted (resizeInPlace blocks offset size).1 extent ↔
      SparesFit blocks offset size extent.extra)
  | [], _, _, extent, _, _, _ => ⟨fun _ => trivial, fun _ => counted_nil extent⟩
  | [memory], offset, size, extent, inside, fits, small => by
      have moved : offset + size ≤ memory.room := inside
      rw [resizeInPlace_last moved, SparesFit]
      by_cases empty : size = 0
      · rw [counted_cons_empty (memory.moved offset size moved) _ _ empty small]
        exact ⟨fun counted _ => counted.1, fun spare => ⟨spare empty, counted_nil _⟩⟩
      · obtain ⟨start, counted⟩ := counted_cons_filled (memory.moved offset size moved)
          [] extent empty fits
        rw [counted]
        exact ⟨fun _ nothing => absurd nothing empty, fun _ => counted_nil _⟩
  | memory :: next :: rest, offset, size, extent, inside, fits, small => by
      rw [reach] at inside
      rw [resizeInPlace_cons_cons, SparesFit]
      by_cases outside : min (memory.size - offset) size = 0
      · have left : size - (memory.size - offset) = size := by omega
        rw [if_pos outside, counted_cons_empty (memory.kept offset size) _ _ outside small,
          left]
        apply and_congr_right
        intro spare
        exact counted_resizeInPlace (next :: rest) _ _ _ (by omega) (by simp only; omega) spare
      · have past : offset - memory.size = 0 := by omega
        have start : (memory.kept offset size).offset = memory.offset + offset := by
          show memory.offset + (if memory.size ≤ offset then 0 else offset) = _
          rw [if_neg (by omega)]
        obtain ⟨front, counted⟩ := counted_cons_filled (memory.kept offset size)
          (resizeInPlace (next :: rest) (offset - memory.size)
            (size - (memory.size - offset))).1 extent outside
          (by show extent.size + min (memory.size - offset) size < sizeRange; omega)
        rw [if_neg outside, counted, counted_resizeInPlace (next :: rest) _ _ _ (by omega)
          (by show extent.size + min (memory.size - offset) size + _ < sizeRange; omega)
          (by have bounded := memory.bounded; show memory.base.length - _ < sizeRange; omega),
          past, start]
        rfl

/-! ## The contract of `resize` -/

/-- What `get_size_range` returns for the whole buffer. -/
theorem getSizeRange_whole {extent : Extent} (computed : buffer.getSizeRange 0 (-1) = .ok extent) :
    buffer.blocks.length ≤ intMax ∧ buffer.blocks.foldlM Extent.add {} = .ok extent ∧
      extent.size = (buffer.blocks.map (·.size)).sum := by
  obtain ⟨rangeLength, range, summed⟩ := bind_eq_ok.mp computed
  obtain ⟨rfl, few⟩ := processArgs_whole range
  rw [drop_zero, take_length] at summed
  refine ⟨few, summed, ?_⟩
  rw [size_of_foldlM_add summed, zero_add]

/-- `get_size` returns when the loop does. -/
theorem getSize_of_counted (few : buffer.blocks.length ≤ intMax) :
    buffer.getSize = .ok (buffer.blocks.map (·.size)).sum ↔ Counted buffer.blocks {} := by
  have range := processArgs_of_few few
  constructor
  · intro computed
    obtain ⟨extent, ranged, -⟩ := bind_eq_ok.mp computed
    exact ⟨extent, (getSizeRange_whole ranged).2.1⟩
  · rintro ⟨last, summed⟩
    have total := size_of_foldlM_add summed
    rw [zero_add] at total
    rw [getSize, getSizeRange, range, ok_bind, drop_zero, take_length, summed,
      ← total]
    rfl

/-- What the bounds checks leave of the call: the loop over all blocks. -/
theorem resized_of_inBounds (inBounds : buffer.InBounds offset size) :
    buffer.resized offset size = (⟨(resizeInPlace buffer.blocks offset size).1⟩,
      (resizeInPlace buffer.blocks offset size).2) := by
  obtain ⟨extent, maxSize, ranged, reported, start, front, fits⟩ := inBounds
  rw [resized]
  simp only [ranged, reported]
  rw [if_neg (by omega), if_neg (by omega)]
  by_cases same : offset = 0 ∧ size = extent.size
  · -- The early return: the loop would have changed nothing.
    rw [if_pos same, same.1, same.2, (getSizeRange_whole ranged).2.2, resizeInPlace_whole]
  · rw [if_neg same]

theorem resized_of_not_inBounds (outside : ¬ buffer.InBounds offset size) :
    (buffer.resized offset size).1 = buffer ∧ (buffer.resized offset size).2 ≠ none := by
  rw [resized]
  cases ranged : buffer.getSizeRange 0 (-1) with
  | error errorCode => exact ⟨rfl, nofun⟩
  | ok extent =>
    cases reported : extent.maxSize with
    | error errorCode =>
      simp only [reported]
      exact ⟨trivial, nofun⟩
    | ok maxSize =>
      simp only [reported]
      split
      · exact ⟨rfl, nofun⟩
      · rename_i front
        split
        · exact ⟨rfl, nofun⟩
        · rename_i fits
          exact absurd ⟨extent, maxSize, ranged, reported, by omega, by omega, by omega⟩
            outside

/-- The outcome of the call is the one of the calls that work on a copy of the blocks. -/
theorem resize_eq_resized (buffer : Buffer) (offset size : Nat) :
    buffer.resize offset size = match buffer.resized offset size with
      | (after, none) => .ok after
      | (_, some errorCode) => .error errorCode := by
  have loop : ∀ (blocks : List Memory) (offset size : Nat), resizeBlocks blocks offset size =
      match resizeInPlace blocks offset size with
        | (blocks, none) => .ok blocks
        | (_, some errorCode) => .error errorCode := by
    intro blocks
    induction blocks with
    | nil =>
      intro offset size
      rfl
    | cons memory rest ih =>
      intro offset size
      rw [resizeBlocks, resizeInPlace]
      generalize (if rest.isEmpty = true then (size, 0, offset)
        else if memory.size ≤ offset then (0, offset - memory.size, 0)
        else (min (memory.size - offset) size, 0, offset)) = round
      obtain ⟨left, next, offset⟩ := round
      simp only [ih, ok_bind]
      by_cases touched : offset ≠ 0 ∨ left ≠ memory.size
      · rw [if_pos touched, if_pos touched]
        cases memory.resize offset left with
        | error errorCode => rfl
        | ok memory =>
          rcases resizeInPlace rest next (size - left) with ⟨blocks, _ | errorCode⟩ <;> rfl
      · rw [if_neg touched, if_neg touched]
        rcases resizeInPlace rest next (size - left) with ⟨blocks, _ | errorCode⟩ <;> rfl
  rw [resize, resized]
  cases buffer.getSizeRange 0 (-1) with
  | error errorCode => rfl
  | ok extent =>
    cases reported : extent.maxSize with
    | error errorCode => simp only [ok_bind, reported]; rfl
    | ok maxSize =>
      simp only [ok_bind, reported]
      split
      · rfl
      · split
        · rfl
        · split
          · rfl
          · rw [loop]
            rcases resizeInPlace buffer.blocks offset size with ⟨blocks, _ | errorCode⟩ <;> rfl

/-- What a caller may expect of `resize`: a range that passes the bounds checks becomes the
visible range of the buffer, and a call that throws leaves every window as it was. -/
def ResizeContract (buffer : Buffer) (offset size : Nat) : Prop :=
  (buffer.InBounds offset size → (buffer.resized offset size).2 = none ∧
      (buffer.resized offset size).1.getSize = .ok size) ∧
    ((buffer.resized offset size).2 ≠ none →
      (buffer.resized offset size).1.blocks.map Memory.window = buffer.blocks.map Memory.window)

/-- Without blocks only the empty range passes the bounds checks. -/
theorem size_eq_zero_of_inBounds (inBounds : buffer.InBounds offset size)
    (none : buffer.blocks = []) : offset = 0 ∧ size = 0 := by
  obtain ⟨extent, maxSize, ranged, reported, start, front, fits⟩ := inBounds
  obtain ⟨-, summed, -⟩ := getSizeRange_whole ranged
  rw [none] at summed
  cases summed
  have capacity : maxSize = 0 := (Except.ok.inj reported).symm
  omega

theorem le_of_checkSizeAdd {base value : Nat} {done : Unit}
    (checked : checkSizeAdd base value = .ok done) : value ≤ sizeRange - 1 - base := by
  rw [checkSizeAdd] at checked
  split at checked
  · cases checked
  · omega

theorem size_lt_of_inBounds (inBounds : buffer.InBounds offset size) : size < sizeRange := by
  obtain ⟨extent, maxSize, ranged, reported, start, front, fits⟩ := inBounds
  obtain ⟨_, checkedSize, counted⟩ := bind_eq_ok.mp reported
  obtain ⟨_, checkedExtra, same⟩ := bind_eq_ok.mp counted
  cases same
  have fitsSize := le_of_checkSizeAdd checkedSize
  have fitsExtra := le_of_checkSizeAdd checkedExtra
  have positive : 0 < sizeRange := by decide
  omega

/-- A range that passes the bounds checks is set and can be counted exactly when it ends
before the end of the base of the last block and its spare bytes can be added up. -/
theorem resized_iff (inBounds : buffer.InBounds offset size) :
    ((buffer.resized offset size).2 = none ∧ (buffer.resized offset size).1.getSize = .ok size) ↔
      offset + size ≤ reach buffer.blocks ∧ SparesFit buffer.blocks offset size 0 := by
  rw [resized_of_inBounds inBounds]
  by_cases none : buffer.blocks = []
  · obtain ⟨rfl, rfl⟩ := size_eq_zero_of_inBounds inBounds none
    rw [none]
    exact ⟨fun _ => ⟨Nat.le_refl 0, trivial⟩, fun _ => ⟨rfl, rfl⟩⟩
  · have small : ({} : Extent).size + size < sizeRange := by
      simpa using size_lt_of_inBounds inBounds
    obtain ⟨extent, maxSize, ranged, -⟩ := inBounds
    have few : (⟨(resizeInPlace buffer.blocks offset size).1⟩ : Buffer).blocks.length ≤ intMax := by
      rw [length_resizeInPlace]
      exact (getSizeRange_whole ranged).1
    rw [resizeInPlace_eq_none_iff _ _ _ none]
    apply and_congr_right
    intro inside
    have total := sum_sizes_resizeInPlace _ _ _ none
      ((resizeInPlace_eq_none_iff _ _ _ none).mpr inside)
    have counted := getSize_of_counted few
    rw [total] at counted
    rw [counted]
    exact counted_resizeInPlace _ _ _ {} inside small (by decide)

/-- The contract holds exactly for the ranges that do not pass the bounds checks and for
those that end before the end of the base of the last block and leave spare bytes that
can be added up. -/
theorem resizeContract_iff (buffer : Buffer) (offset size : Nat) :
    buffer.ResizeContract offset size ↔ (buffer.InBounds offset size →
      offset + size ≤ reach buffer.blocks ∧ SparesFit buffer.blocks offset size 0) := by
  constructor
  · rintro ⟨succeeds, -⟩ inBounds
    exact (resized_iff inBounds).mp (succeeds inBounds)
  · intro condition
    refine ⟨fun inBounds => (resized_iff inBounds).mpr (condition inBounds), ?_⟩
    intro thrown
    by_cases inBounds : buffer.InBounds offset size
    · exact absurd ((resized_iff inBounds).mpr (condition inBounds)).1 thrown
    · rw [(resized_of_not_inBounds inBounds).1]

/-- A block of eight bytes of which four are visible, and a block without bytes. -/
def spareInFront : Buffer :=
  ⟨[⟨List.replicate 8 0, 0, 4, true, by decide, by decide⟩, Memory.whole [] (by decide)]⟩

/-- `get_size` reports a capacity of eight bytes, `resize(1, 7)` passes the checks and
throws, and the first block has been moved. -/
theorem not_resizeContract_spareInFront :
    spareInFront.InBounds 1 7 ∧ (spareInFront.resized 1 7).2 = some Error.Code.invalidSize ∧
      spareInFront.blocks.map Memory.window = [(0, 4), (0, 0)] ∧
      (spareInFront.resized 1 7).1.blocks.map Memory.window = [(1, 3), (0, 0)] ∧
      ¬ spareInFront.ResizeContract 1 7 := by
  have inBounds : spareInFront.InBounds 1 7 :=
    ⟨⟨4, 0, 4⟩, 8, rfl, rfl, by decide, by decide, by decide⟩
  refine ⟨inBounds, rfl, rfl, rfl, ?_⟩
  intro contract
  exact nomatch (contract.1 inBounds).1

/-! ## Narrowing -/

theorem bytes_resetSize (buffer : Buffer) :
    buffer.resetSize.bytes = buffer.blocks.flatMap (·.base) := by
  rw [bytes, resetSize, flatMap_map]
  congr 1
  funext memory
  exact take_length

theorem inBounds_of_le {maxSize : Nat} (reported : buffer.getMaxSize = .ok maxSize)
    (inside : offset + size ≤ buffer.bytes.length) : buffer.InBounds offset size := by
  obtain ⟨extent, ranged, capacity⟩ := bind_eq_ok.mp reported
  have total := (getSizeRange_whole ranged).2.2
  rw [← length_bytes] at total
  obtain ⟨-, -, counted⟩ := bind_eq_ok.mp capacity
  obtain ⟨-, -, same⟩ := bind_eq_ok.mp counted
  cases same
  exact ⟨extent, _, ranged, capacity, by omega, by omega, by omega⟩

theorem resize_of_le (offset : Nat) {maxSize : Nat} (reported : buffer.getMaxSize = .ok maxSize)
    (inside : offset + size ≤ buffer.bytes.length) :
    ∃ narrowed, buffer.resize offset size = .ok narrowed ∧
      narrowed.bytes = (buffer.bytes.drop offset).take size := by
  have inBounds := inBounds_of_le reported inside
  rw [length_bytes] at inside
  have returned : (resizeInPlace buffer.blocks offset size).2 = none := by
    by_cases none : buffer.blocks = []
    · rw [none]
      rfl
    · rw [resizeInPlace_eq_none_iff _ _ _ none]
      exact Nat.le_trans inside (sum_sizes_le_reach _)
  rw [resize_eq_resized, resized_of_inBounds inBounds, returned]
  exact ⟨_, rfl, bytes_resizeInPlace _ _ _ inside⟩

/-- Narrowing a buffer whose capacity `get_size` reports: the range becomes the visible
bytes; and after `reset_size`, `set_size` shows a beginning of the bytes of the bases. -/
theorem narrowing_preserves_content (buffer : Buffer) :
    (∀ offset size maxSize, buffer.getMaxSize = .ok maxSize →
      offset + size ≤ buffer.bytes.length →
      ∃ narrowed, buffer.resize offset size = .ok narrowed ∧
        narrowed.bytes = (buffer.bytes.drop offset).take size) ∧
    (∀ size maxSize, buffer.resetSize.getMaxSize = .ok maxSize →
      size ≤ (buffer.blocks.flatMap (·.base)).length →
      ∃ shown, buffer.resetSize.setSize size = .ok shown ∧
        shown.bytes = (buffer.blocks.flatMap (·.base)).take size) := by
  refine ⟨fun offset size maxSize reported inside => resize_of_le offset reported inside, ?_⟩
  intro size maxSize reported inside
  rw [← bytes_resetSize] at inside
  obtain ⟨shown, returned, content⟩ :=
    resize_of_le 0 reported (zero_add size ▸ inside)
  rw [drop_zero, bytes_resetSize] at content
  exact ⟨shown, returned, content⟩

/-- Two blocks with one hidden byte at either end. -/
def twoBlocks : Buffer :=
  ⟨[⟨[1, 2, 3], 1, 2, true, by decide, by decide⟩, ⟨[4, 5, 6], 0, 2, true, by decide, by decide⟩]⟩

theorem narrowing_twoBlocks :
    (∃ narrowed, twoBlocks.resize 1 2 = .ok narrowed ∧ narrowed.bytes = [3, 4]) ∧
      ∃ shown, twoBlocks.resetSize.setSize 4 = .ok shown ∧ shown.bytes = [1, 2, 3, 4] :=
  ⟨(narrowing_preserves_content twoBlocks).1 1 2 6 rfl (by decide),
    (narrowing_preserves_content twoBlocks).2 4 6 rfl (by decide)⟩

/-- More blocks than an `int` counts. -/
def crowded : Buffer := ⟨List.replicate (intMax + 1) (Memory.whole [] (by decide))⟩

/-- The empty range of a buffer with more blocks than an `int` counts is refused. -/
theorem resize_crowded :
    0 + 0 ≤ crowded.bytes.length ∧ ∀ narrowed, crowded.resize 0 0 ≠ .ok narrowed := by
  have many : intMax < crowded.blocks.length := by
    rw [crowded, length_replicate]
    omega
  have refused : crowded.getSizeRange 0 (-1) = .error Error.Code.invalidSize := by
    rw [getSizeRange, processArgs_of_many many]
    rfl
  refine ⟨zero_le _, ?_⟩
  intro narrowed
  rw [resize, refused]
  rintro ⟨⟩

end Buffer

end Rstream.Core
