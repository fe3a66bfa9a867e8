import Mathlib.Algebra.BigOperators.Group.List.Basic
import Mathlib.Algebra.Order.Ring.Nat
import Rstream.IoRstrm.Error
import Rstream.Library.Results

/-!
# Memory blocks and buffers

A block of memory is a window into the bytes of its base, a buffer is a list of
blocks. The sizes of a buffer are computed block by block in `std::size_t` with a
check at each addition, so a buffer whose sizes do not fit makes the functions
throw. The number of blocks of a range is an `int`, which bounds the number of
blocks a whole buffer may have.
-/

namespace Rstream.Core

open Library List
open IoRstrm

namespace Error

/-- `rstream::core::error::code`, the codes a buffer throws. -/
inductive Code where
  | invalidSize | objectNull | objectNotWritable
  deriving DecidableEq, Repr

/-- `make_error_code`. -/
def Code.toErrorCode : Code → ErrorCode
  | .invalidSize => ⟨1, .other "rstream::core::error::category"⟩
  | .objectNull => ⟨2, .other "rstream::core::error::category"⟩
  | .objectNotWritable => ⟨3, .other "rstream::core::error::category"⟩

instance : Coe Code ErrorCode := ⟨Code.toErrorCode⟩

end Error

/-- The number of values of `std::size_t`. -/
abbrev sizeRange : Nat := 2 ^ 64

/-- `std::numeric_limits<int>::max()`. -/
abbrev intMax : Nat := 2 ^ 31 - 1

/-- `memory::impl`: the window of `size` bytes at `offset` of the bytes of the base. -/
structure Memory where
  base : List UInt8
  offset : Nat
  size : Nat
  /-- `is_mutable` of the base. -/
  writable : Bool
  within : offset + size ≤ base.length
  bounded : base.length < sizeRange

namespace Memory

/-- The bytes of the window. -/
def bytes (memory : Memory) : List UInt8 := (memory.base.drop memory.offset).take memory.size

theorem length_bytes (memory : Memory) : memory.bytes.length = memory.size := by
  have within := memory.within
  rw [bytes, length_take, length_drop]
  omega

/-- The window over the whole base, as of a new block. -/
def whole (base : List UInt8) (bounded : base.length < sizeRange) (writable : Bool := true) :
    Memory :=
  ⟨base, 0, base.length, writable, Nat.le_of_eq (Nat.zero_add _), bounded⟩

def resetSize (memory : Memory) : Memory := whole memory.base memory.bounded memory.writable

def resize (memory : Memory) (offset size : Nat) : Except ErrorCode Memory :=
  if memory.offset > memory.base.length then .error Error.Code.invalidSize
  else if fits : offset > memory.base.length - memory.offset ∨
      size > memory.base.length - memory.offset - offset then
    .error Error.Code.invalidSize
  else
    .ok { memory with
      offset := memory.offset + offset
      size := size
      within := by
        have within := memory.within
        omega }

/-- The bytes of the window are replaced. -/
def write (memory : Memory) (bytes : List UInt8) (same : bytes.length = memory.size) : Memory :=
  { memory with
    base := memory.base.take memory.offset ++ bytes ++
      memory.base.drop (memory.offset + memory.size)
    within := by
      have within := memory.within
      rw [List.length_append, List.length_append, List.length_take, List.length_drop]
      omega
    bounded := by
      have within := memory.within
      have bounded := memory.bounded
      rw [List.length_append, List.length_append, List.length_take, List.length_drop]
      omega }

theorem bytes_write (memory : Memory) (bytes : List UInt8) (same : bytes.length = memory.size) :
    (memory.write bytes same).bytes = bytes := by
  have within := memory.within
  have front : (memory.base.take memory.offset).length = memory.offset := by
    rw [length_take]
    omega
  show ((memory.base.take memory.offset ++ bytes ++
    memory.base.drop (memory.offset + memory.size)).drop memory.offset).take memory.size = bytes
  rw [append_assoc, drop_append_of_le_length (Nat.le_of_eq front.symm),
    drop_of_length_le (Nat.le_of_eq front), nil_append,
    take_append_of_le_length (Nat.le_of_eq same.symm),
    take_of_length_le (Nat.le_of_eq same)]

end Memory

def checkSizeAdd (base value : Nat) : Except ErrorCode Unit :=
  if value > sizeRange - 1 - base then .error Error.Code.invalidSize else .ok ()

theorem checkSizeAdd_of_lt {base value : Nat} (fits : base + value < sizeRange) :
    checkSizeAdd base value = .ok () := by
  rw [checkSizeAdd, if_neg (by omega)]

structure Buffer where
  blocks : List Memory := []

/-- The accumulators of the loop of `get_size_range`. -/
structure Extent where
  size : Nat := 0
  offset : Nat := 0
  extra : Nat := 0
  deriving DecidableEq, Repr

namespace Extent

/-- One round of the loop of `get_size_range`. -/
def add (extent : Extent) (memory : Memory) : Except ErrorCode Extent :=
  if memory.offset > memory.base.length ∨
      memory.size > memory.base.length - memory.offset then .error Error.Code.invalidSize
  else if memory.size ≠ 0 then do
    let offset := if extent.size = 0 then (extent.extra + memory.offset) % sizeRange
      else extent.offset
    checkSizeAdd extent.size memory.size
    pure ⟨extent.size + memory.size, offset,
      memory.base.length - (memory.offset + memory.size)⟩
  else do
    checkSizeAdd extent.extra memory.base.length
    pure { extent with extra := extent.extra + memory.base.length }

/-- `*p_maxsize`. -/
def maxSize (extent : Extent) : Except ErrorCode Nat := do
  checkSizeAdd extent.offset extent.size
  checkSizeAdd (extent.offset + extent.size) extent.extra
  pure (extent.offset + extent.size + extent.extra)

end Extent

namespace Buffer

/-- The bytes of the windows, in order: what a gathering write sends. -/
def bytes (buffer : Buffer) : List UInt8 := buffer.blocks.flatMap Memory.bytes

/-- `buffer::append` of a block. -/
def append (buffer : Buffer) (memory : Memory) : Buffer := ⟨buffer.blocks ++ [memory]⟩

/-- `buffer::append` of the blocks of a buffer. -/
def appendAll (buffer other : Buffer) : Buffer := other.blocks.foldl append buffer

theorem blocks_appendAll (buffer other : Buffer) :
    (buffer.appendAll other).blocks = buffer.blocks ++ other.blocks := by
  obtain ⟨blocks⟩ := other
  show (blocks.foldl append buffer).blocks = buffer.blocks ++ blocks
  induction blocks generalizing buffer with
  | nil => exact (append_nil _).symm
  | cons memory rest ih =>
    rw [foldl_cons, ih]
    show buffer.blocks ++ [memory] ++ rest = buffer.blocks ++ memory :: rest
    rw [append_assoc, singleton_append]

/-- `process_args`: the number of blocks of the range. -/
def processArgs (buffer : Buffer) (index : Nat) (length : Int) : Except ErrorCode Nat :=
  if length < -1 ∨ index > buffer.blocks.length then .error Error.Code.invalidSize
  else if length = -1 then
    if buffer.blocks.length - index > intMax then .error Error.Code.invalidSize
    else .ok (buffer.blocks.length - index)
  else if length.toNat > buffer.blocks.length - index then .error Error.Code.invalidSize
  else .ok length.toNat

/-- `get_size_range`, without the part that computes `*p_maxsize`. -/
def getSizeRange (buffer : Buffer) (index : Nat) (length : Int) : Except ErrorCode Extent := do
  let rangeLength ← buffer.processArgs index length
  ((buffer.blocks.drop index).take rangeLength).foldlM Extent.add {}

def getSize (buffer : Buffer) : Except ErrorCode Nat := do
  let extent ← buffer.getSizeRange 0 (-1)
  pure extent.size

/-- `get_size(offset, maxsize)`, the value of `maxsize`. -/
def getMaxSize (buffer : Buffer) : Except ErrorCode Nat := do
  let extent ← buffer.getSizeRange 0 (-1)
  extent.maxSize

/-- The loop of `resize_range_checked`. -/
def resizeBlocks : List Memory → Nat → Nat → Except ErrorCode (List Memory)
  | [], _, _ => .ok []
  | memory :: rest, offset, size => do
      let (left, next, offset) :=
        if rest.isEmpty then (size, 0, offset)
        else if memory.size ≤ offset then (0, offset - memory.size, 0)
        else (min (memory.size - offset) size, 0, offset)
      let memory ← if offset ≠ 0 ∨ left ≠ memory.size then memory.resize offset left
        else .ok memory
      let rest ← resizeBlocks rest next (size - left)
      pure (memory :: rest)

/-- `resize_range_checked(0, -1, offset, true, size)`. -/
def resize (buffer : Buffer) (offset size : Nat) : Except ErrorCode Buffer := do
  let extent ← buffer.getSizeRange 0 (-1)
  let maxSize ← extent.maxSize
  if extent.offset > maxSize ∨ offset > maxSize - extent.offset then
    .error Error.Code.invalidSize
  else if size > maxSize - extent.offset - offset then .error Error.Code.invalidSize
  else if offset = 0 ∧ size = extent.size then .ok buffer
  else do
    let blocks ← resizeBlocks buffer.blocks offset size
    pure ⟨blocks⟩

def setSize (buffer : Buffer) (size : Nat) : Except ErrorCode Buffer := buffer.resize 0 size

def resetSize (buffer : Buffer) : Buffer := ⟨buffer.blocks.map Memory.resetSize⟩

/-! ## Sizes -/

theorem length_bytes (buffer : Buffer) :
    buffer.bytes.length = (buffer.blocks.map (·.size)).sum := by
  rw [bytes, length_flatMap]
  congr 1
  exact map_congr_left fun memory _ => memory.length_bytes

variable {extent : Extent} {buffer : Buffer}

theorem size_of_add {next : Extent} {memory : Memory} (round : extent.add memory = .ok next) :
    next.size = extent.size + memory.size := by
  rw [Extent.add] at round
  split at round
  · cases round
  · split at round
    · obtain ⟨-, -, same⟩ := bind_eq_ok.mp round
      cases same
      rfl
    · rename_i empty
      rw [not_not] at empty
      obtain ⟨-, -, same⟩ := bind_eq_ok.mp round
      cases same
      rw [empty]
      rfl

/-- The loop adds up the sizes of the windows. -/
theorem size_of_foldlM_add {blocks : List Memory} {last : Extent}
    (computed : blocks.foldlM Extent.add extent = .ok last) :
    last.size = extent.size + (blocks.map (·.size)).sum := by
  induction blocks generalizing extent with
  | nil =>
    cases computed
    rfl
  | cons memory rest ih =>
    rw [foldlM_cons] at computed
    obtain ⟨next, round, more⟩ := bind_eq_ok.mp computed
    rw [ih more, size_of_add round, map_cons, sum_cons]
    omega

/-- The whole buffer is the range `0, -1`. -/
theorem processArgs_whole {rangeLength : Nat} (range : buffer.processArgs 0 (-1) = .ok rangeLength)
    :
    rangeLength = buffer.blocks.length ∧ buffer.blocks.length ≤ intMax := by
  rw [processArgs] at range
  split at range
  · cases range
  · rw [if_pos rfl] at range
    split at range
    · cases range
    · cases range
      exact ⟨rfl, by omega⟩

/-- What `get_size` returns, when it returns, is the number of bytes. -/
theorem getSize_eq_length {size : Nat} (computed : buffer.getSize = .ok size) :
    size = buffer.bytes.length := by
  obtain ⟨extent, ranged, same⟩ := bind_eq_ok.mp computed
  obtain ⟨rangeLength, range, summed⟩ := bind_eq_ok.mp ranged
  have total := size_of_foldlM_add summed
  rw [(processArgs_whole range).1, drop_zero, take_length] at total
  rw [← pure_eq_ok.mp same, total, length_bytes, Nat.zero_add]

theorem processArgs_of_many (many : intMax < buffer.blocks.length) :
    buffer.processArgs 0 (-1) = .error Error.Code.invalidSize := by
  rw [processArgs, if_neg (by omega), if_pos rfl, if_pos (by omega)]

theorem processArgs_of_few (few : buffer.blocks.length ≤ intMax) :
    buffer.processArgs 0 (-1) = .ok buffer.blocks.length := by
  rw [processArgs, if_neg (by omega), if_pos rfl, if_neg (by omega)]
  rfl

/-- `get_size` throws when the blocks outnumber an `int`. -/
theorem getSize_of_many (many : intMax < buffer.blocks.length) :
    buffer.getSize = .error Error.Code.invalidSize := by
  rw [getSize, getSizeRange, processArgs_of_many many]
  rfl

/-- The loop does not throw when the bases fit into `std::size_t` together. -/
theorem foldlM_add_of_fits {blocks : List Memory}
    (fits : extent.size + extent.extra + (blocks.map (·.base.length)).sum < sizeRange) :
    ∃ last, blocks.foldlM Extent.add extent = .ok last := by
  induction blocks generalizing extent with
  | nil => exact ⟨extent, rfl⟩
  | cons memory rest ih =>
    rw [map_cons, sum_cons] at fits
    have within := memory.within
    rw [foldlM_cons, Extent.add, if_neg (by omega)]
    by_cases empty : memory.size = 0
    · rw [if_neg (not_not.mpr empty), checkSizeAdd_of_lt (by omega)]
      exact ih (by simp only; omega)
    · rw [if_pos empty, checkSizeAdd_of_lt (by omega)]
      exact ih (by simp only; omega)

end Buffer

end Rstream.Core
