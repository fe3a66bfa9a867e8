import Rstream.Core.Sizes

/-!
# Copying in and out of a buffer

`extract` and `fill` walk over the blocks with an offset that falls and a rest that shrinks;
`map_range` joins the blocks of a range into a new one. Each of them is a slice of the content,
which is the concatenation of the windows. `fill` and a mapping for writing replace a block
that is read-only by a copy of its window.

Blocks are values here: no two of them share an implementation.
-/

namespace Rstream.Core

open Library List
open IoRstrm

/-- `memcpy` to position `index` of `dst`. -/
def overwrite (dst : List UInt8) (index : Nat) (bytes : List UInt8) : List UInt8 :=
  dst.take index ++ bytes ++ dst.drop (index + bytes.length)

theorem overwrite_nil (dst : List UInt8) (index : Nat) : overwrite dst index [] = dst := by
  rw [overwrite, append_nil, length_nil, Nat.add_zero, take_append_drop]

theorem overwrite_zero (dst bytes : List UInt8) :
    overwrite dst 0 bytes = bytes ++ dst.drop bytes.length := by
  rw [overwrite, take_zero, nil_append, Nat.zero_add]

theorem length_overwrite {dst : List UInt8} {index : Nat} {bytes : List UInt8}
    (fits : index + bytes.length ≤ dst.length) : (overwrite dst index bytes).length = dst.length := by
  rw [overwrite, length_append, length_append, length_take, length_drop]
  omega

theorem le_length_overwrite {dst : List UInt8} {index : Nat} (inside : index ≤ dst.length)
    (bytes : List UInt8) : index + bytes.length ≤ (overwrite dst index bytes).length := by
  rw [overwrite, length_append, length_append, length_take]
  omega

/-- Two copies that follow each other are one. -/
theorem overwrite_overwrite {dst : List UInt8} {index : Nat} (inside : index ≤ dst.length)
    (first second : List UInt8) :
    overwrite (overwrite dst index first) (index + first.length) second =
      overwrite dst index (first ++ second) := by
  have front : (dst.take index ++ first).length = index + first.length := by
    rw [length_append, length_take]
    omega
  have kept : (overwrite dst index first).take (index + first.length) = dst.take index ++ first := by
    rw [overwrite, ← front, take_left]
  have rest : (overwrite dst index first).drop (index + first.length + second.length) =
      dst.drop (index + first.length + second.length) := by
    rw [← drop_drop, overwrite, ← front, drop_left, drop_drop]
  rw [overwrite, kept, rest, overwrite, length_append, ← Nat.add_assoc, append_assoc,
    append_assoc, append_assoc, append_assoc]

namespace Memory

theorem bytes_whole (base : List UInt8) (bounded : base.length < sizeRange) (writable : Bool) :
    (whole base bounded writable).bytes = base := by
  show (base.drop 0).take base.length = base
  rw [drop_zero, take_length]

/-- `make_mutable`: a read-only block becomes a copy of its window. -/
def makeMutable (memory : Memory) : Memory :=
  if memory.writable then memory
  else whole memory.bytes (by
    have within := memory.within
    have bounded := memory.bounded
    rw [length_bytes]
    omega)

theorem bytes_makeMutable (memory : Memory) : memory.makeMutable.bytes = memory.bytes := by
  unfold makeMutable
  split
  · rfl
  · exact bytes_whole _ _ _

theorem size_makeMutable (memory : Memory) : memory.makeMutable.size = memory.size := by
  rw [← length_bytes, bytes_makeMutable, length_bytes]

/-- `memcpy` into the window. -/
def writeAt (memory : Memory) (offset : Nat) (bytes : List UInt8)
    (fits : offset + bytes.length ≤ memory.size) : Memory :=
  memory.write (overwrite memory.bytes offset bytes) (by
    rw [length_overwrite (by rw [length_bytes]; exact fits), length_bytes])

theorem bytes_writeAt (memory : Memory) (offset : Nat) (bytes : List UInt8)
    (fits : offset + bytes.length ≤ memory.size) :
    (memory.writeAt offset bytes fits).bytes = overwrite memory.bytes offset bytes :=
  bytes_write memory _ _

/-- `map_memory_block`. -/
def mapped (memory : Memory) (write : Bool) : Memory :=
  if write then memory.makeMutable else memory

theorem bytes_mapped (memory : Memory) (write : Bool) :
    (memory.mapped write).bytes = memory.bytes := by
  unfold mapped
  split
  · exact memory.bytes_makeMutable
  · rfl

theorem size_mapped (memory : Memory) (write : Bool) : (memory.mapped write).size = memory.size := by
  rw [← length_bytes, bytes_mapped, length_bytes]

end Memory

namespace Buffer

/-! ## Out of the buffer -/

/-- The loop of `extract`: what `dst` holds in the end, and `left`. -/
def extractLoop : List Memory → List UInt8 → Nat → Nat → Nat → List UInt8 × Nat
  | [], dst, _, _, left => (dst, left)
  | memory :: rest, dst, i, offset, left =>
    if left = 0 then (dst, left)
    else if memory.size > offset then
      let toCopy := min (memory.size - offset) left
      extractLoop rest (overwrite dst i ((memory.bytes.drop offset).take toCopy)) (i + toCopy) 0
        (left - toCopy)
    else extractLoop rest dst i (offset - memory.size) left

/-- `extract`: what `dst` holds afterwards, and the number of bytes. -/
def extract (buffer : Buffer) (dst : List UInt8) (offset size : Nat) : List UInt8 × Nat :=
  let (dst, left) := extractLoop buffer.blocks dst 0 offset size
  (dst, size - left)

theorem slice_of_lt {memory : Memory} (rest : List UInt8) {offset : Nat} (inside : offset < memory.size)
    (left : Nat) : ((memory.bytes ++ rest).drop offset).take left =
      (memory.bytes.drop offset).take (min (memory.size - offset) left) ++
        rest.take (left - min (memory.size - offset) left) := by
  have size := memory.length_bytes
  have window : (memory.bytes.drop offset).length = memory.size - offset := by
    rw [length_drop, size]
  have rest' : left - (memory.size - offset) = left - min (memory.size - offset) left := by omega
  rw [drop_append_of_le_length (by omega), take_append, window, rest', ← window,
    Nat.min_comm, ← take_take, take_length]

/-- A slice that begins behind the first block. -/
theorem slice_of_le {memory : Memory} (rest : List UInt8) {offset : Nat}
    (outside : memory.size ≤ offset) (left : Nat) :
    ((memory.bytes ++ rest).drop offset).take left =
      (rest.drop (offset - memory.size)).take left := by
  have size := memory.length_bytes
  rw [drop_append, drop_of_length_le (by omega), nil_append, size]

theorem extractLoop_eq (blocks : List Memory) {dst : List UInt8} {i : Nat} (inside : i ≤ dst.length)
    (offset left : Nat) :
    extractLoop blocks dst i offset left =
      (overwrite dst i (((blocks.flatMap Memory.bytes).drop offset).take left),
        left - (((blocks.flatMap Memory.bytes).drop offset).take left).length) := by
  induction blocks generalizing dst i offset left with
  | nil =>
    simp only [flatMap_nil, drop_nil, take_nil, overwrite_nil, length_nil,
      Nat.sub_zero]
    rfl
  | cons memory rest ih =>
    rw [extractLoop, flatMap_cons]
    by_cases done : left = 0
    · rw [if_pos done, done, take_zero, overwrite_nil]
      rfl
    rw [if_neg done]
    by_cases within : memory.size > offset
    · have copied : ((memory.bytes.drop offset).take (min (memory.size - offset) left)).length =
          min (memory.size - offset) left := by
        rw [length_take, length_drop, memory.length_bytes]
        omega
      have later := le_length_overwrite inside
        ((memory.bytes.drop offset).take (min (memory.size - offset) left))
      rw [copied] at later
      rw [if_pos within, ih later 0, slice_of_lt _ within, drop_zero, length_append,
        copied]
      nth_rewrite 2 [← copied]
      rw [overwrite_overwrite inside, Nat.sub_sub]
    · rw [if_neg within, ih inside, slice_of_le _ (Nat.le_of_not_lt within)]

/-- **`extract` copies a slice of the content.** -/
theorem extract_eq (buffer : Buffer) (dst : List UInt8) (offset size : Nat) :
    buffer.extract dst offset size =
      ((buffer.bytes.drop offset).take size ++
          dst.drop (min size (buffer.bytes.length - min offset buffer.bytes.length)),
        min size (buffer.bytes.length - min offset buffer.bytes.length)) := by
  have copied : ((buffer.bytes.drop offset).take size).length =
      min size (buffer.bytes.length - min offset buffer.bytes.length) := by
    rw [length_take, length_drop]
    omega
  rw [extract, extractLoop_eq buffer.blocks (Nat.zero_le _)]
  show (overwrite dst 0 ((buffer.bytes.drop offset).take size),
    size - (size - ((buffer.bytes.drop offset).take size).length)) = _
  rw [overwrite_zero, copied, Nat.sub_sub_self (Nat.min_le_left _ _)]

/-! ## Into the buffer -/

/-- The loop of `fill`: the blocks afterwards, and `left`. -/
def fillLoop : List Memory → List UInt8 → Nat → Nat → Nat → List Memory × Nat
  | [], _, _, _, left => ([], left)
  | memory :: rest, src, i, offset, left =>
    if left = 0 then (memory :: rest, left)
    else
      let memory := memory.makeMutable
      if inside : memory.size > offset then
        let toCopy := min (memory.size - offset) left
        let part := (src.drop i).take toCopy
        let written := memory.writeAt offset part (by
          have short : part.length ≤ toCopy := List.length_take_le _ _
          have room : toCopy ≤ memory.size - offset := Nat.min_le_left _ _
          omega)
        let (blocks, left) := fillLoop rest src (i + toCopy) 0 (left - toCopy)
        (written :: blocks, left)
      else
        let (blocks, left) := fillLoop rest src i (offset - memory.size) left
        (memory :: blocks, left)

/-- `fill`: the buffer afterwards, and the number of bytes. -/
def fill (buffer : Buffer) (src : List UInt8) (offset size : Nat) : Buffer × Nat :=
  let (blocks, left) := fillLoop buffer.blocks src 0 offset size
  (⟨blocks⟩, size - left)

/-- Replacing a slice that begins inside the first part. -/
theorem overwrite_append_of_lt {front rest bytes : List UInt8} {offset : Nat}
    (inside : offset ≤ front.length) :
    overwrite (front ++ rest) offset bytes =
      overwrite front offset (bytes.take (front.length - offset)) ++
        overwrite rest 0 (bytes.drop (front.length - offset)) := by
  rw [overwrite, take_append_of_le_length inside, drop_append, overwrite, overwrite_zero]
  by_cases short : bytes.length ≤ front.length - offset
  · have behind : offset + bytes.length - front.length = 0 := by omega
    rw [take_of_length_le short, drop_of_length_le short, behind, length_nil,
      nil_append, append_assoc, append_assoc, append_assoc]
  · have front' : (bytes.take (front.length - offset)).length = front.length - offset := by
      rw [length_take]
      omega
    have behind : offset + bytes.length - front.length = bytes.length - (front.length - offset) := by
      omega
    have split := take_append_drop (front.length - offset) bytes
    rw [drop_of_length_le (by omega), front', Nat.add_sub_cancel' inside, drop_length,
      nil_append, append_nil, length_drop, behind]
    nth_rewrite 1 [← split]
    rw [append_assoc, append_assoc, append_assoc]

theorem overwrite_append_of_le {front rest bytes : List UInt8} {offset : Nat}
    (outside : front.length ≤ offset) :
    overwrite (front ++ rest) offset bytes = front ++ overwrite rest (offset - front.length) bytes := by
  rw [overwrite, overwrite, take_append, take_of_length_le outside, drop_append,
    drop_of_length_le (by omega), nil_append, append_assoc, append_assoc,
    append_assoc]
  congr 4
  omega

theorem fillLoop_eq (blocks : List Memory) {src : List UInt8} {i offset left : Nat}
    (enough : i + min left ((blocks.flatMap Memory.bytes).length - offset) ≤ src.length) :
    (fillLoop blocks src i offset left).1.flatMap Memory.bytes =
        overwrite (blocks.flatMap Memory.bytes) offset ((src.drop i).take
          (min left ((blocks.flatMap Memory.bytes).length - offset))) ∧
      (fillLoop blocks src i offset left).2 =
        left - min left ((blocks.flatMap Memory.bytes).length - offset) ∧
      (fillLoop blocks src i offset left).1.map (·.size) = blocks.map (·.size) := by
  induction blocks generalizing i offset left with
  | nil =>
    rw [fillLoop, flatMap_nil, length_nil, Nat.zero_sub, Nat.min_zero, take_zero,
      overwrite_nil]
    exact ⟨rfl, rfl, rfl⟩
  | cons memory rest ih =>
    have size := memory.length_bytes
    rw [flatMap_cons, length_append, size] at enough ⊢
    rw [fillLoop]
    by_cases done : left = 0
    · rw [if_pos done, done, Nat.zero_min, take_zero, overwrite_nil]
      exact ⟨rfl, rfl, rfl⟩
    rw [if_neg done]
    -- only the window matters of the block that is mapped
    have same := memory.size_makeMutable
    have bytes := memory.bytes_makeMutable
    rw [← same, ← bytes]
    rw [← same] at enough
    have length := memory.makeMutable.length_bytes
    dsimp only
    split
    · rename_i inside
      have copied : ((src.drop i).take (min (memory.makeMutable.size - offset) left)).length =
          min (memory.makeMutable.size - offset) left := by
        rw [length_take, length_drop]
        omega
      obtain ⟨content, rest', sizes⟩ := @ih (i + min (memory.makeMutable.size - offset) left) 0
        (left - min (memory.makeMutable.size - offset) left) (by omega)
      refine ⟨?_, ?_, ?_⟩
      · rw [flatMap_cons, content, Memory.bytes_writeAt,
          overwrite_append_of_lt (by omega), length, take_take, drop_take,
          drop_drop]
        have first : min (memory.makeMutable.size - offset)
            (min left (memory.makeMutable.size + (rest.flatMap Memory.bytes).length - offset)) =
            min (memory.makeMutable.size - offset) left := by
          omega
        have second : min (left - min (memory.makeMutable.size - offset) left)
            ((rest.flatMap Memory.bytes).length - 0) =
            min left (memory.makeMutable.size + (rest.flatMap Memory.bytes).length - offset) -
              (memory.makeMutable.size - offset) := by
          omega
        rw [first, second]
        rcases Nat.le_total left (memory.makeMutable.size - offset) with short | long
        · have none : min left (memory.makeMutable.size +
              (rest.flatMap Memory.bytes).length - offset) - (memory.makeMutable.size - offset) =
              0 := by
            omega
          rw [none, take_zero, take_zero]
        · rw [Nat.min_eq_left long]
      · rw [rest']
        omega
      · rw [map_cons, sizes, map_cons, ← same]
        rfl
    · rename_i outside
      obtain ⟨content, rest', sizes⟩ := @ih i (offset - memory.makeMutable.size) left (by omega)
      have behind : memory.makeMutable.size + (rest.flatMap Memory.bytes).length - offset =
          (rest.flatMap Memory.bytes).length - (offset - memory.makeMutable.size) := by omega
      refine ⟨?_, ?_, ?_⟩
      · rw [flatMap_cons, content, overwrite_append_of_le (by omega), length, behind]
      · rw [rest', behind]
      · rw [map_cons, sizes, map_cons, same]

/-- **`fill` replaces a slice of the content.** -/
theorem fill_eq (buffer : Buffer) {src : List UInt8} {offset size : Nat}
    (enough : min size (buffer.bytes.length - offset) ≤ src.length) :
    (buffer.fill src offset size).1.bytes = overwrite buffer.bytes offset
        (src.take (min size (buffer.bytes.length - offset))) ∧
      (buffer.fill src offset size).2 = min size (buffer.bytes.length - offset) ∧
      (buffer.fill src offset size).1.blocks.map (·.size) = buffer.blocks.map (·.size) := by
  obtain ⟨content, left, sizes⟩ := @fillLoop_eq buffer.blocks src 0 offset size
    (by rw [Nat.zero_add]; exact enough)
  refine ⟨content, ?_, sizes⟩
  show size - (fillLoop buffer.blocks src 0 offset size).2 = _
  rw [left, Nat.sub_sub_self (Nat.min_le_left _ _)]
  rfl

/-! ## Mapping -/

/-- The loop of `map_range`: the bytes of the result, and the blocks that are left. -/
def gatherLoop (write : Bool) : Nat → List Memory → List UInt8 → Nat → List UInt8 × List Memory
  | 0, blocks, dst, _ => (dst, blocks)
  | _ + 1, [], dst, _ => (dst, [])
  | count + 1, memory :: rest, dst, offset =>
    let mem := memory.mapped write
    gatherLoop write count rest (overwrite dst offset mem.bytes) (offset + mem.size)

/-- `map_range`: the buffer afterwards, and the block, unless the range is empty. -/
def mapRange (buffer : Buffer) (write : Bool) (index : Nat) (length : Int) :
    Except ErrorCode (Buffer × Option Memory) := do
  let rangeLength ← buffer.processArgs index length
  if rangeLength = 1 then
    match buffer.blocks[index]? with
    | none => pure (buffer, none)
    | some memory =>
      pure (⟨buffer.blocks.set index (memory.mapped write)⟩, some (memory.mapped write))
  else if rangeLength ≠ 0 then do
    let extent ← buffer.getSizeRange index rangeLength
    let (dst, rest) := gatherLoop write rangeLength (buffer.blocks.drop index)
      (List.replicate extent.size 0) 0
    -- `make_memory_allocated` of a `std::size_t`
    if bounded : dst.length < sizeRange then
      let result := Memory.whole dst bounded
      pure (⟨buffer.blocks.take index ++ result :: rest⟩, some result)
    else .error Error.Code.invalidSize
  else pure (buffer, none)

def map (buffer : Buffer) (write : Bool) : Except ErrorCode (Buffer × Option Memory) :=
  buffer.mapRange write 0 (-1)

theorem gatherLoop_eq (write : Bool) {count : Nat} {blocks : List Memory} {dst : List UInt8}
    {offset : Nat} (enough : count ≤ blocks.length) (inside : offset ≤ dst.length) :
    gatherLoop write count blocks dst offset =
      (overwrite dst offset ((blocks.take count).flatMap Memory.bytes), blocks.drop count) := by
  induction count generalizing blocks dst offset with
  | zero =>
    rw [gatherLoop, take_zero, flatMap_nil, overwrite_nil, drop_zero]
  | succ count ih =>
    cases blocks with
    | nil => simp at enough
    | cons memory rest =>
      have later := le_length_overwrite inside memory.bytes
      rw [memory.length_bytes] at later
      rw [gatherLoop, Memory.bytes_mapped, Memory.size_mapped,
        ih (by simpa using enough) later, take_succ_cons, flatMap_cons,
        drop_succ_cons]
      nth_rewrite 1 [← memory.length_bytes]
      rw [overwrite_overwrite inside]

theorem size_lt_of_foldlM_add {blocks : List Memory} {extent last : Extent}
    (bounded : extent.size < sizeRange) (computed : blocks.foldlM Extent.add extent = .ok last) :
    last.size < sizeRange := by
  induction blocks generalizing extent with
  | nil =>
    cases computed
    exact bounded
  | cons memory rest ih =>
    rw [foldlM_cons] at computed
    obtain ⟨next, round, more⟩ := bind_eq_ok.mp computed
    refine ih ?_ more
    rw [Extent.add] at round
    split at round
    · cases round
    · split at round
      · obtain ⟨_, checked, same⟩ := bind_eq_ok.mp round
        cases same
        rw [checkSizeAdd] at checked
        split at checked
        · cases checked
        · show extent.size + memory.size < sizeRange
          omega
      · obtain ⟨-, -, same⟩ := bind_eq_ok.mp round
        cases same
        exact bounded

/-- A range that `process_args` accepts lies inside the buffer, and is accepted again with
the length it has got. -/
theorem processArgs_range {buffer : Buffer} {index rangeLength : Nat} {length : Int}
    (range : buffer.processArgs index length = .ok rangeLength) :
    index + rangeLength ≤ buffer.blocks.length ∧
      buffer.processArgs index rangeLength = .ok rangeLength := by
  have inside : index + rangeLength ≤ buffer.blocks.length := by
    rw [processArgs] at range
    split at range
    · cases range
    · split at range
      · split at range
        · cases range
        · cases range
          omega
      · split at range
        · cases range
        · cases range
          omega
  refine ⟨inside, ?_⟩
  rw [processArgs, if_neg (by omega), if_neg (by omega), Int.toNat_natCast, if_neg (by omega)]

/-- The content of a range. -/
def rangeBytes (buffer : Buffer) (index rangeLength : Nat) : List UInt8 :=
  (buffer.range index rangeLength).flatMap Memory.bytes

theorem bytes_split (buffer : Buffer) (index rangeLength : Nat) :
    buffer.bytes = (buffer.blocks.take index).flatMap Memory.bytes ++
      buffer.rangeBytes index rangeLength ++
      (buffer.blocks.drop (index + rangeLength)).flatMap Memory.bytes := by
  rw [rangeBytes, range, ← flatMap_append, ← flatMap_append, bytes, ← drop_drop,
    append_assoc, take_append_drop, take_append_drop]

theorem size_getSizeRange {buffer : Buffer} {index rangeLength : Nat} {extent : Extent}
    (valid : buffer.processArgs index rangeLength = .ok rangeLength)
    (computed : buffer.getSizeRange index rangeLength = .ok extent) :
    extent.size = (buffer.rangeBytes index rangeLength).length ∧ extent.size < sizeRange := by
  rw [getSizeRange, valid, ok_bind] at computed
  refine ⟨?_, size_lt_of_foldlM_add (by decide) computed⟩
  have sum := size_of_foldlM_add computed
  rw [rangeBytes, range, length_flatMap, sum, Nat.zero_add]
  congr 1
  exact map_congr_left fun memory _ => memory.length_bytes.symm

/-- **`map_range` leaves the content as it is** and returns the content of the range. It throws
when the range has more than one block and `get_size_range` throws. -/
theorem mapRange_eq {buffer : Buffer} (write : Bool) {index rangeLength : Nat} {length : Int}
    (valid : buffer.processArgs index length = .ok rangeLength) :
    1 < rangeLength ∧ buffer.getSizeRange index rangeLength = .error Error.Code.invalidSize ∧
      buffer.mapRange write index length = .error Error.Code.invalidSize ∨
    ∃ after result, buffer.mapRange write index length = .ok (after, result) ∧
      after.bytes = buffer.bytes ∧ result.elim [] Memory.bytes = buffer.rangeBytes index rangeLength := by
  obtain ⟨inside, again⟩ := processArgs_range valid
  have split := buffer.bytes_split index rangeLength
  rw [mapRange, valid, ok_bind]
  by_cases one : rangeLength = 1
  · right
    subst one
    have bound : index < buffer.blocks.length := by omega
    have taken : (buffer.blocks.drop index).take 1 = [buffer.blocks[index]] := by
      rw [drop_eq_getElem_cons bound, take_succ_cons, take_zero]
    rw [if_pos rfl, getElem?_eq_getElem bound]
    refine ⟨_, _, rfl, ?_, ?_⟩
    · rw [split, rangeBytes, range, taken, bytes, set_eq_take_append_cons_drop, if_pos bound,
        flatMap_append, flatMap_cons, flatMap_cons, flatMap_nil,
        append_nil, Memory.bytes_mapped, append_assoc]
    · rw [rangeBytes, range, taken, flatMap_cons, flatMap_nil, append_nil,
        Option.elim_some, Memory.bytes_mapped]
  rw [if_neg one]
  by_cases empty : rangeLength = 0
  · right
    subst empty
    rw [if_neg (by simp)]
    exact ⟨_, _, rfl, rfl, rfl⟩
  rw [if_pos empty]
  cases computed : buffer.getSizeRange index rangeLength with
  | error errorCode =>
    have thrown : errorCode = Error.Code.invalidSize := by
      rw [getSizeRange, again, ok_bind] at computed
      exact foldlM_add_error computed
    exact .inl ⟨by omega, by rw [thrown], by rw [thrown]; rfl⟩
  | ok extent =>
    right
    obtain ⟨size, bounded⟩ := size_getSizeRange again computed
    have gathered : gatherLoop write rangeLength (buffer.blocks.drop index)
        (replicate extent.size 0) 0 =
        (buffer.rangeBytes index rangeLength, buffer.blocks.drop (index + rangeLength)) := by
      rw [gatherLoop_eq write (by rw [length_drop]; omega) (Nat.zero_le _),
        drop_drop, overwrite_zero]
      have whole : (replicate extent.size (0 : UInt8)).drop
          (buffer.rangeBytes index rangeLength).length = [] := by
        rw [← size, drop_of_length_le (Nat.le_of_eq length_replicate)]
      exact congrArg (·, _) ((congrArg _ whole).trans (append_nil _))
    rw [ok_bind, gathered]
    dsimp only
    rw [dif_pos (size ▸ bounded)]
    refine ⟨_, _, rfl, ?_, ?_⟩
    · rw [split, bytes, flatMap_append, flatMap_cons, Memory.bytes_whole,
        append_assoc]
    · exact Memory.bytes_whole _ _ _

/-- The number of bytes that a request of `size` bytes at `offset` reaches. -/
def reached (buffer : Buffer) (offset size : Nat) : Nat :=
  min size (buffer.bytes.length - min offset buffer.bytes.length)

/-- Two empty blocks whose bases do not fit together. -/
theorem mapRange_far {far : Memory} (empty : far.size = 0)
    (reach : far.base.length = sizeRange - 1) :
    (⟨[far, far]⟩ : Buffer).mapRange false 0 2 = .error Error.Code.invalidSize := by
  have range : (⟨[far, far]⟩ : Buffer).processArgs 0 2 = .ok 2 := rfl
  have first : Extent.add {} far = .ok ⟨0, 0, sizeRange - 1⟩ := by
    rw [Extent.add_empty empty, reach]
    rfl
  have second : Extent.add ⟨0, 0, sizeRange - 1⟩ far = .error Error.Code.invalidSize := by
    rw [Extent.add_empty empty, reach]
    rfl
  have thrown : (⟨[far, far]⟩ : Buffer).getSizeRange 0 2 = .error Error.Code.invalidSize := by
    rw [getSizeRange, range, ok_bind]
    show [far, far].foldlM Extent.add {} = _
    rw [foldlM_cons, first, ok_bind, foldlM_cons, second]
    rfl
  rw [mapRange, range, ok_bind, if_neg (by decide), if_pos (by decide)]
  show ((⟨[far, far]⟩ : Buffer).getSizeRange 0 2 >>= _) = _
  rw [thrown]
  rfl

end Buffer

end Rstream.Core
