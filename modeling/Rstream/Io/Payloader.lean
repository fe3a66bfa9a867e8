import Rstream.Core.Buffer
import Rstream.Io.Error
import Rstream.Library.Bytes

/-!
# Framing of payloads

`io::payloader` writes a payload to a byte stream as a header of four bytes, the
size of the payload in network order, followed by the bytes of all blocks of the
payload. The receiving side reads the header, shrinks its buffer to the announced
size and reads that many bytes into it.

The two sides may run on machines of different byte order (`Host`). The transport
delivers the bytes in chunks that have nothing to do with the frames; `async_read`
of Asio gathers exactly the requested number of bytes from them.
-/

namespace Rstream.Io

open IoRstrm Core Library List

/-! ## Integers in memory -/

/-- The order in which a machine stores the bytes of an integer. -/
inductive Host where
  | little | big
  deriving DecidableEq, Repr

namespace Host

/-- The bytes of a `std::uint32_t` in memory. -/
def store : Host → Nat → List UInt8
  | .big, value => bigEndian 4 value
  | .little, value => (bigEndian 4 value).reverse

@[simp] theorem length_store (host : Host) (value : Nat) : (host.store value).length = 4 := by
  cases host <;> simp [store]

/-- The `std::uint32_t` that four bytes of memory hold. -/
def load : Host → List UInt8 → Nat
  | .big, bytes => ofBigEndian bytes
  | .little, bytes => ofBigEndian bytes.reverse

def htonl : Host → Nat → Nat
  | .big, value => value
  | .little, value => ofBigEndian (bigEndian 4 value).reverse

/-- `ntohl`, the same exchange of bytes. -/
def ntohl : Host → Nat → Nat := htonl

/-- In network order the most significant byte comes first on every machine. -/
theorem store_htonl (host : Host) (value : Nat) :
    host.store (host.htonl value) = bigEndian 4 value := by
  cases host with
  | big => rfl
  | little =>
    have back := bigEndian_ofBigEndian (bigEndian 4 value).reverse
    rw [length_reverse, length_bigEndian] at back
    rw [store, htonl, back, reverse_reverse]

theorem ntohl_load (host : Host) {bytes : List UInt8} (four : bytes.length = 4) :
    host.ntohl (host.load bytes) = ofBigEndian bytes := by
  cases host with
  | big => rfl
  | little =>
    have back := bigEndian_ofBigEndian bytes.reverse
    rw [length_reverse, four] at back
    rw [ntohl, htonl, load, back, reverse_reverse]

end Host

/-! ## The transport -/

/-- What the transport still delivers: chunks of bytes and then, when the connection
ends, an error. -/
structure Inbound where
  chunks : List (List UInt8)
  failure : Option ErrorCode := none

/-- The outcome of `boost::asio::async_read`. -/
inductive ReadResult where
  /-- Not all bytes have arrived. -/
  | waiting
  | failed (bytes : List UInt8) (errorCode : ErrorCode)
  | done (bytes : List UInt8) (rest : Inbound)

/-- `boost::asio::async_read` of `size` bytes. -/
def asyncRead (failure : Option ErrorCode) (size : Nat) : List (List UInt8) → ReadResult
  | [] =>
    if size = 0 then .done [] ⟨[], failure⟩
    else match failure with
      | none => .waiting
      | some errorCode => .failed [] errorCode
  | chunk :: chunks =>
    if size ≤ chunk.length then .done (chunk.take size) ⟨chunk.drop size :: chunks, failure⟩
    else match asyncRead failure (size - chunk.length) chunks with
      | .waiting => .waiting
      | .failed bytes errorCode => .failed (chunk ++ bytes) errorCode
      | .done bytes rest => .done (chunk ++ bytes) rest

/-- However the transport splits the stream, a read takes the requested bytes off its
front. -/
theorem asyncRead_of_le (failure : Option ErrorCode) (size : Nat) (chunks : List (List UInt8))
    (enough : size ≤ chunks.flatten.length) :
    ∃ rest, asyncRead failure size chunks = .done (chunks.flatten.take size) rest ∧
      rest.chunks.flatten = chunks.flatten.drop size := by
  induction chunks generalizing size with
  | nil =>
    have zero : size = 0 := Nat.le_zero.mp enough
    subst zero
    exact ⟨⟨[], failure⟩, rfl, rfl⟩
  | cons chunk chunks ih =>
    rw [flatten_cons, length_append] at enough
    rw [asyncRead]
    by_cases inside : size ≤ chunk.length
    · rw [if_pos inside, flatten_cons, take_append_of_le_length inside,
        drop_append_of_le_length inside]
      exact ⟨_, rfl, flatten_cons⟩
    · obtain ⟨rest, read, left⟩ := ih (size - chunk.length) (by omega)
      have taken : chunk.take size = chunk := take_of_length_le (by omega)
      have dropped : chunk.drop size = [] := drop_of_length_le (by omega)
      rw [if_neg inside, read, flatten_cons, take_append, taken]
      refine ⟨rest, rfl, ?_⟩
      rw [left, drop_append, dropped, nil_append]

/-! ## Sending -/

/-- The completion of an `async_send`: its error code and the bytes written. -/
structure Sent where
  errorCode : ErrorCode
  written : List UInt8

/-- The header of a payload: the size in network order, copied to new memory. -/
def makeHeader (host : Host) (payloadSize : Nat) : Memory :=
  let networkSize := host.htonl (payloadSize % 2 ^ 32)
  Memory.whole (host.store networkSize) (by
    rw [Host.length_store, sizeRange]
    omega)

theorem bytes_makeHeader (host : Host) {payloadSize : Nat} (small : payloadSize < 2 ^ 32) :
    (makeHeader host payloadSize).bytes = bigEndian 4 payloadSize := by
  rw [Memory.bytes, makeHeader, Memory.whole, drop_zero, take_length,
    host.store_htonl, Nat.mod_eq_of_lt small]

/-- `payloader::async_send`. The gathering write transfers the bytes of the message. -/
def asyncSend (host : Host) (payload : Buffer) : Except ErrorCode Sent := do
  let payloadSize ← payload.getSize
  if payloadSize > 2 ^ 32 - 1 then pure ⟨Error.Code.invalidBufferSize, []⟩
  else
    let header := makeHeader host payloadSize
    let message := (({} : Buffer).append header).appendAll payload
    pure ⟨.none, message.bytes⟩

/-- The frame of a payload. -/
def frame (payload : List UInt8) : List UInt8 := bigEndian 4 payload.length ++ payload

variable {size : Nat} {stream : Inbound} {rest : List UInt8} {payloads : List Buffer}

theorem asyncSend_eq (host : Host) {payload : Buffer} (computed : payload.getSize = .ok size)
    (small : size < 2 ^ 32) : asyncSend host payload = .ok ⟨.none, frame payload.bytes⟩ := by
  have length := Buffer.getSize_eq_length computed
  rw [asyncSend, computed, ok_bind, if_neg (by omega)]
  refine congrArg (fun written => Except.ok (Sent.mk .none written)) ?_
  rw [Buffer.bytes, Buffer.blocks_appendAll]
  show (makeHeader host size :: payload.blocks).flatMap Memory.bytes = frame payload.bytes
  rw [flatMap_cons, bytes_makeHeader host small, length]
  rfl

/-! ## Receiving -/

namespace Memory

/-- A writable block takes bytes into its window. -/
def overwrite (memory : Memory) (bytes : List UInt8) : Memory :=
  memory.write (bytes.take memory.size ++ memory.bytes.drop (bytes.take memory.size).length) (by
    rw [List.length_append, List.length_drop, memory.length_bytes, List.length_take]
    omega)

theorem bytes_overwrite {memory : Memory} {bytes : List UInt8}
    (same : bytes.length = memory.size) : (overwrite memory bytes).bytes = bytes := by
  rw [overwrite, Memory.bytes_write, ← same, take_length,
    drop_of_length_le (by rw [memory.length_bytes, same]), append_nil]

end Memory

/-- A scattering read fills the windows of the blocks in order. -/
def scatter : List Memory → List UInt8 → List Memory
  | [], _ => []
  | memory :: rest, bytes =>
    Memory.overwrite memory (bytes.take memory.size) :: scatter rest (bytes.drop memory.size)

/-- The outcome of an `async_recv`. -/
inductive Received where
  | waiting
  /-- An exception leaves the completion handler. -/
  | thrown (errorCode : ErrorCode)
  | completed (errorCode : ErrorCode) (buffer : Buffer) (stream : Inbound)

/-- `m_control_cb`; the error is the code with which the operation then completes. -/
abbrev ControlCb := Buffer → Nat → Except ErrorCode Buffer

/-- The second read of `do_read_payload`, into the blocks of the buffer. -/
def readPayload (buffer : Buffer) (stream : Inbound) : Received :=
  if buffer.blocks.all (·.writable) then
    match asyncRead stream.failure (buffer.blocks.map (·.size)).sum stream.chunks with
    | .waiting => .waiting
    | .failed bytes errorCode =>
      .completed errorCode ⟨scatter buffer.blocks bytes⟩ ⟨[], stream.failure⟩
    | .done bytes rest => .completed .none ⟨scatter buffer.blocks bytes⟩ rest
  else .thrown Core.Error.Code.objectNotWritable

/-- `do_read_payload` after the control callback. -/
def sizePayload (buffer : Buffer) (header : Nat) (stream : Inbound) : Received :=
  match buffer.getMaxSize with
  | .error errorCode => .thrown errorCode
  | .ok maxSize =>
    if header > maxSize then .completed Error.Code.invalidBufferSize buffer stream
    else match buffer.setSize header with
      | .error errorCode => .thrown errorCode
      | .ok buffer => readPayload buffer stream

def doReadPayload (controlCb : Option ControlCb) (buffer : Buffer) (header : Nat)
    (stream : Inbound) : Received :=
  match controlCb with
  | none => sizePayload buffer header stream
  | some callback =>
    match callback buffer header with
    | .error errorCode => .completed errorCode buffer stream
    | .ok buffer => sizePayload buffer header stream

def asyncRecv (host : Host) (controlCb : Option ControlCb) (buffer : Buffer) (stream : Inbound) :
    Received :=
  match asyncRead stream.failure 4 stream.chunks with
  | .waiting => .waiting
  | .failed _ errorCode => .completed errorCode buffer ⟨[], stream.failure⟩
  | .done bytes rest => doReadPayload controlCb buffer (host.ntohl (host.load bytes)) rest

/-! ## A receive buffer of one block -/

namespace Memory

/-- A block whose window is the whole base, as after its construction or `reset_size`. -/
def Fresh (memory : Memory) : Prop := memory.offset = 0 ∧ memory.size = memory.base.length

theorem fresh_resetSize (memory : Memory) : Fresh memory.resetSize := ⟨rfl, rfl⟩

end Memory

variable {memory : Memory}

/-- The sizes of a buffer of one block with its whole base as window. -/
theorem getSizeRange_fresh (fresh : Memory.Fresh memory) :
    (⟨[memory]⟩ : Buffer).getSizeRange 0 (-1) = .ok ⟨memory.base.length, 0, 0⟩ := by
  obtain ⟨front, whole⟩ := fresh
  have bounded := memory.bounded
  have range : (⟨[memory]⟩ : Buffer).processArgs 0 (-1) = .ok 1 := rfl
  rw [Buffer.getSizeRange, range, ok_bind, drop_zero]
  show ([memory].foldlM Extent.add {} : Except ErrorCode Extent) = _
  rw [foldlM_cons, Extent.add, if_neg (by omega)]
  by_cases empty : memory.size = 0
  · rw [if_neg (not_not.mpr empty), checkSizeAdd_of_lt (by simp only; omega)]
    rw [whole] at empty
    rw [empty]
    rfl
  · rw [if_pos empty, checkSizeAdd_of_lt (by simp only; omega), front, whole]
    simp only [ok_bind, if_true, foldlM_nil, Nat.zero_add, Nat.sub_self, Nat.zero_mod]
    rfl

theorem maxSize_fresh {capacity : Nat} (bounded : capacity < sizeRange) :
    (⟨capacity, 0, 0⟩ : Extent).maxSize = .ok capacity := by
  rw [Extent.maxSize, checkSizeAdd_of_lt (by simp only; omega), ok_bind,
    checkSizeAdd_of_lt (by simp only; omega), ok_bind]
  simp only [Nat.zero_add, Nat.add_zero]
  rfl

theorem getMaxSize_fresh (fresh : Memory.Fresh memory) :
    (⟨[memory]⟩ : Buffer).getMaxSize = .ok memory.base.length := by
  rw [Buffer.getMaxSize, getSizeRange_fresh fresh, ok_bind, maxSize_fresh memory.bounded]

/-- Shrinking the window keeps it at the front of the block. -/
theorem setSize_fresh (fresh : Memory.Fresh memory) (fits : size ≤ memory.base.length) :
    ∃ shrunk : Memory, (⟨[memory]⟩ : Buffer).setSize size = .ok ⟨[shrunk]⟩ ∧
      shrunk.base = memory.base ∧ shrunk.offset = 0 ∧ shrunk.size = size ∧
      shrunk.writable = memory.writable := by
  have bounded := memory.bounded
  rw [Buffer.setSize, Buffer.resize, getSizeRange_fresh fresh, ok_bind,
    maxSize_fresh bounded, ok_bind, if_neg (by simp only; omega), if_neg (by simp only; omega)]
  obtain ⟨front, whole⟩ := fresh
  by_cases same : size = memory.base.length
  · rw [if_pos ⟨rfl, same⟩]
    exact ⟨memory, rfl, rfl, front, whole.trans same.symm, rfl⟩
  · rw [if_neg (fun both => same both.2), Buffer.resizeBlocks]
    simp only [isEmpty_nil, if_true]
    rw [if_pos (.inr (fun equal => same (equal.trans whole))), Memory.resize,
      if_neg (by omega), dif_neg (by omega)]
    exact ⟨_, rfl, rfl, front, rfl, rfl⟩

theorem asyncRecv_frame (host : Host) (fresh : Memory.Fresh memory)
    (writable : memory.writable = true) {payload : List UInt8}
    (arriving : stream.chunks.flatten = frame payload ++ rest) (small : payload.length < 2 ^ 32)
    (fits : payload.length ≤ memory.base.length) :
    ∃ (buffer : Buffer) (left : Inbound),
      asyncRecv host none ⟨[memory]⟩ stream = .completed .none buffer left ∧
        buffer.bytes = payload ∧ left.chunks.flatten = rest := by
  have headerLength : (bigEndian 4 payload.length).length = 4 := length_bigEndian _ _
  have split : stream.chunks.flatten = bigEndian 4 payload.length ++ (payload ++ rest) := by
    rw [arriving, frame, append_assoc]
  obtain ⟨afterHeader, headerRead, payloadNext⟩ := asyncRead_of_le stream.failure 4
    stream.chunks (by rw [split, length_append]; omega)
  rw [split, take_left' headerLength] at headerRead
  rw [split, drop_left' headerLength] at payloadNext
  obtain ⟨shrunk, sized, -, -, size, stillWritable⟩ := setSize_fresh fresh fits
  obtain ⟨left, payloadRead, restNext⟩ := asyncRead_of_le afterHeader.failure
    payload.length afterHeader.chunks (by rw [payloadNext, length_append]; omega)
  rw [payloadNext, take_left] at payloadRead
  rw [payloadNext, drop_left] at restNext
  refine ⟨⟨scatter [shrunk] payload⟩, left, ?_, ?_, restNext⟩
  · have total : ([shrunk].map (·.size)).sum = payload.length := by
      rw [map_singleton, sum_singleton, size]
    have header : host.ntohl (host.load (bigEndian 4 payload.length)) = payload.length := by
      rw [host.ntohl_load headerLength, ofBigEndian_bigEndian (by omega)]
    rw [asyncRecv, headerRead]
    simp only [doReadPayload, sizePayload, header, getMaxSize_fresh fresh]
    rw [if_neg (by omega), sized]
    simp only [readPayload, total, payloadRead]
    rw [if_pos (by rw [all_cons, stillWritable, writable]; rfl)]
  · rw [Buffer.bytes, scatter, scatter, flatMap_singleton, Memory.bytes_overwrite]
    · rw [size, take_length]
    · rw [size, take_length]

/-- A header larger than the block is refused, and nothing beyond it is read. -/
theorem asyncRecv_oversized (host : Host) (fresh : Memory.Fresh memory) {announced : Nat}
    (arriving : stream.chunks.flatten = bigEndian 4 announced ++ rest) (small : announced < 2 ^ 32)
    (exceeds : memory.base.length < announced) :
    ∃ left : Inbound,
      asyncRecv host none ⟨[memory]⟩ stream =
        .completed Error.Code.invalidBufferSize ⟨[memory]⟩ left ∧
        left.chunks.flatten = rest := by
  have headerLength : (bigEndian 4 announced).length = 4 := length_bigEndian _ _
  obtain ⟨left, headerRead, restNext⟩ := asyncRead_of_le stream.failure 4
    stream.chunks (by rw [arriving, length_append]; omega)
  rw [arriving, take_left' headerLength] at headerRead
  rw [arriving, drop_left' headerLength] at restNext
  have header : host.ntohl (host.load (bigEndian 4 announced)) = announced := by
    rw [host.ntohl_load headerLength, ofBigEndian_bigEndian (by omega)]
  refine ⟨left, ?_, restNext⟩
  rw [asyncRecv, headerRead]
  simp only [doReadPayload, sizePayload, header, getMaxSize_fresh fresh]
  rw [if_pos exceeds]

/-! ## Sequences of messages -/

/-- Successive calls of `async_send`, and the bytes they put on the stream. -/
def sendAll (host : Host) : List Buffer → Except ErrorCode (List UInt8)
  | [] => .ok []
  | payload :: payloads => do
      let sent ← asyncSend host payload
      if sent.errorCode.failed then .error sent.errorCode
      else
        let written ← sendAll host payloads
        pure (sent.written ++ written)

/-- Successive calls of `async_recv`, each with a buffer of one block, and the payloads
they yield; `none` when one of them fails or waits for more. -/
def recvAll (host : Host) : List Memory → Inbound → Option (List (List UInt8) × Inbound)
  | [], stream => some ([], stream)
  | memory :: memories, stream =>
    match asyncRecv host none ⟨[memory]⟩ stream with
    | .completed errorCode buffer stream =>
      if errorCode.failed then none
      else (recvAll host memories stream).map fun (payloads, stream) =>
        (buffer.bytes :: payloads, stream)
    | .waiting | .thrown _ => none

/-- The payloads sent arrive as they were, in order, with nothing left over, however
the transport splits the stream. -/
def RoundTrips (sender receiver : Host) (payloads : List Buffer) (memories : List Memory) :
    Prop :=
  ∃ written, sendAll sender payloads = .ok written ∧
    ∀ stream : Inbound, stream.chunks.flatten = written →
      ∃ left, recvAll receiver memories stream = some (payloads.map Buffer.bytes, left) ∧
        left.chunks.flatten = []

/-- A block that can receive a payload: new or reset, writable, and large enough. -/
def CanReceive (payload : Buffer) (memory : Memory) : Prop :=
  Memory.Fresh memory ∧ memory.writable = true ∧ payload.bytes.length ≤ memory.base.length

/-- `get_size` computes a size below `2 ^ 32`. -/
def HasSize (payload : Buffer) : Prop := ∃ size, payload.getSize = .ok size ∧ size < 2 ^ 32

theorem sendAll_eq (host : Host) (sized : ∀ payload ∈ payloads, HasSize payload) :
    sendAll host payloads = .ok (payloads.flatMap fun payload => frame payload.bytes) := by
  induction payloads with
  | nil => rfl
  | cons payload payloads ih =>
    obtain ⟨size, computed, small⟩ := sized payload mem_cons_self
    rw [sendAll, asyncSend_eq host computed small, ok_bind, ErrorCode.failed_none,
      if_neg Bool.false_ne_true, ih fun other mem => sized other (mem_cons_of_mem _ mem)]
    rfl

/-- The receiver takes the frames one after the other. -/
theorem recvAll_frames (host : Host) {memories : List Memory}
    (sized : ∀ payload ∈ payloads, HasSize payload)
    (receivers : List.Forall₂ CanReceive payloads memories) (arriving : stream.chunks.flatten =
      payloads.flatMap fun payload => frame payload.bytes) :
    ∃ left, recvAll host memories stream = some (payloads.map Buffer.bytes, left) ∧
      left.chunks.flatten = [] := by
  induction receivers generalizing stream with
  | nil => exact ⟨stream, rfl, arriving⟩
  | @cons payload memory payloads memories receives _ ih =>
    obtain ⟨size, computed, small⟩ := sized payload mem_cons_self
    obtain ⟨fresh, writable, fits⟩ := receives
    rw [Buffer.getSize_eq_length computed] at small
    rw [flatMap_cons] at arriving
    obtain ⟨buffer, next, received, same, remaining⟩ :=
      asyncRecv_frame host fresh writable arriving small fits
    obtain ⟨left, rest, empty⟩ :=
      ih (fun other mem => sized other (mem_cons_of_mem _ mem)) remaining
    refine ⟨left, ?_, empty⟩
    rw [recvAll, received]
    simp only [ErrorCode.failed_none, Bool.false_eq_true, if_false, rest, Option.map_some,
      same, map_cons]

/-- Payloads on which `get_size` computes a size below `2 ^ 32` make the round trip
through any fresh, writable blocks that are large enough; and a header that exceeds the
block is refused with `invalid_buffer_size` with every later byte still on the stream. -/
theorem framing_round_trip (sender receiver : Host) (payloads : List Buffer)
    (memories : List Memory) (sized : ∀ payload ∈ payloads, HasSize payload)
    (receivers : List.Forall₂ CanReceive payloads memories) :
    RoundTrips sender receiver payloads memories ∧
    ∀ (memory : Memory) (stream : Inbound) (announced : Nat) (rest : List UInt8),
      Memory.Fresh memory → announced < 2 ^ 32 → memory.base.length < announced →
      stream.chunks.flatten = bigEndian 4 announced ++ rest →
        ∃ left : Inbound,
          asyncRecv receiver none ⟨[memory]⟩ stream =
            .completed Error.Code.invalidBufferSize ⟨[memory]⟩ left ∧
          left.chunks.flatten = rest := by
  refine ⟨⟨_, sendAll_eq sender sized, fun stream arriving => ?_⟩,
    fun memory stream announced rest fresh small exceeds arriving => ?_⟩
  · exact recvAll_frames receiver sized receivers arriving
  · exact asyncRecv_oversized receiver fresh arriving small exceeds

/-- A block of memory with the given bytes. -/
def blockOf (bytes : List UInt8) (bounded : bytes.length < 256 := by decide) : Memory :=
  Memory.whole bytes (by
    rw [sizeRange]
    omega)

/-- Two blocks and an empty payload, from a little-endian to a big-endian machine. -/
theorem framing_round_trip_two :
    RoundTrips .little .big [⟨[blockOf [1, 2], blockOf [3]]⟩, ⟨[]⟩]
      [blockOf [0, 0, 0, 0], blockOf [9]] :=
  (framing_round_trip .little .big _ _
    (forall_mem_cons.mpr ⟨⟨3, rfl, by decide⟩,
      forall_mem_cons.mpr ⟨⟨0, rfl, by decide⟩, forall_mem_nil _⟩⟩)
    (.cons ⟨⟨rfl, rfl⟩, rfl, by decide⟩ (.cons ⟨⟨rfl, rfl⟩, rfl, by decide⟩ .nil))).1

/-- A payload of `2 ^ 31` empty blocks has no byte, but its size is not computed. -/
def manyBlocks : Buffer := ⟨List.replicate (2 ^ 31) (blockOf [])⟩

theorem bytes_manyBlocks : manyBlocks.bytes = [] := by
  rw [Buffer.bytes, flatMap_eq_nil_iff]
  intro memory mem
  rw [eq_of_mem_replicate mem]
  rfl

/-- The empty payload of `2 ^ 31` blocks fits any block and is not sent. -/
theorem manyBlocks_not_roundTrips :
    manyBlocks.bytes.length < 2 ^ 32 ∧ CanReceive manyBlocks (blockOf [0]) ∧
      ¬ RoundTrips .little .little [manyBlocks] [blockOf [0]] := by
  have many : intMax < manyBlocks.blocks.length := by
    rw [manyBlocks, length_replicate]
    decide
  refine ⟨?_, ⟨⟨rfl, rfl⟩, rfl, ?_⟩, ?_⟩
  · rw [bytes_manyBlocks]
    decide
  · rw [bytes_manyBlocks]
    decide
  · rintro ⟨written, sent, -⟩
    rw [sendAll, asyncSend, Buffer.getSize_of_many many] at sent
    cases sent

end Rstream.Io
