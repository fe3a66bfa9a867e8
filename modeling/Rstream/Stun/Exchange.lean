import Rstream.Stun.Grammar

/-!
# A message that is sent

The bytes that a message was serialised to are parsed where they are received: the header is the one
that was built, and there is an attribute for each value, where the value was written
(`parseMessage_written`). This needs a type that is known and a size that fits, and holds for every
kind of value: an attribute is found by the header that is written in front of it.
-/

namespace Rstream.Stun

open Library

/-! ## The bytes that are sent -/

section Sent

variable {memory : Nat → UInt8}

variable {offset count length : Nat}

theorem drop_take_region (within : offset + length ≤ count) :
    ((region memory 0 count).drop offset).take length = region memory offset length := by
  rw [take_drop_region memory within, Nat.zero_add]

theorem field16_region (within : offset + 2 ≤ count) :
    field16 (region memory 0 count) offset = ofNet16 (region memory offset 2) := by
  rw [field16, drop_take_region within]

theorem field32_region (within : offset + 4 ≤ count) :
    field32 (region memory 0 count) offset = ofNet32 (region memory offset 4) := by
  rw [field32, drop_take_region within]

theorem read_region {memory : Memory} {bytes : Nat → UInt8} {total : Nat}
    (holds : memory.string = region bytes 0 total) (room : offset + length ≤ total) :
    memory.read offset length = .ok ⟨region bytes offset length, length_region ..⟩ := by
  rw [read_of_le (by rw [holds, length_region]; exact room), Except.ok.injEq]
  refine Subtype.ext (show (memory.string.drop offset).take length = _ from ?_)
  rw [holds, drop_take_region room]

theorem parseBytes_region {memory : Memory} {bytes : Nat → UInt8} {total : Nat}
    (holds : memory.string = region bytes 0 total) (within : memory.size ≤ total)
    (room : offset + length ≤ memory.size) :
    parseBytes memory length offset = .ok ⟨region bytes offset length, length_region ..⟩ := by
  rw [parseBytes, if_neg (by omega), read_region holds (room.trans within)]

theorem headD_net16_append (value : UInt16) (rest : Bytes) :
    (net16 value ++ rest).headD 0 = (net16 value).headD 0 := by
  have two := length_net16 value
  cases bytes : net16 value with
  | nil =>
    rw [bytes] at two
    cases two
  | cons first more => rfl

/-- The fields of a header that was written. -/
structure HeaderWritten (memory : Nat → UInt8) (header : Header) : Prop where
  type : region memory 0 2 = net16 header.type
  payloadLength : region memory 2 2 = net16 header.payloadLength
  magic : region memory 4 4 = net32 header.magic
  transactionId : region memory 8 12 = header.transactionId.val

theorem headerWritten {header : Header} (written : region memory 0 20 = encodeHeader header) :
    HeaderWritten memory header := by
  have parts : region memory 0 20 =
      region memory 0 2 ++ region memory 2 2 ++ region memory 4 4 ++ region memory 8 12 := by
    rw [← region_add memory 0 2 2, ← region_add memory 0 4 4, ← region_add memory 0 8 12]
  rw [parts, encodeHeader] at written
  obtain ⟨written, transactionId⟩ := List.append_inj written (by simp)
  obtain ⟨written, magic⟩ := List.append_inj written (by simp)
  obtain ⟨type, payloadLength⟩ := List.append_inj written (by simp)
  exact ⟨type, payloadLength, magic, transactionId⟩

theorem attributeHeaderWritten {value : AttributeValue} {start : Nat}
    (written : region memory start 4 = attributeHeaderBytes value) :
    region memory start 2 = net16 (getAttributeMsgType value.kind) ∧
      region memory (start + 2) 2 = net16 (UInt16.ofNat (byteSizeLongValue value)) := by
  rw [region_add memory start 2 2, attributeHeaderBytes] at written
  exact List.append_inj written (by simp)

end Sent

theorem dvd_blocks (values : List AttributeValue) : 4 ∣ blocks values := by
  induction values with
  | nil => exact Nat.dvd_zero 4
  | cons value values ih =>
    rw [blocks_cons, blockSize]
    exact Nat.dvd_add (Nat.dvd_add (Nat.dvd_refl 4) (dvd_aligned _)) ih

/-! ## Where the attributes start -/

/-- The header of the attribute of a value. -/
def valueHeader (value : AttributeValue) : AttributeHeader :=
  (parsedAttribute value).header

/-- The attributes of some values in a memory. -/
def placedAttributes (memory : Memory) : Nat → List AttributeValue → List Attribute
  | _, [] => []
  | start, value :: values =>
    attributeAt memory (valueHeader value) (start + 4) ::
      placedAttributes memory (start + blockSize value) values

/-- Where the attributes of some values start. -/
def starts : Nat → List AttributeValue → List Nat
  | _, [] => []
  | start, value :: values => start :: starts (start + blockSize value) values

variable {start : Nat}

theorem Placed.tiles {digests : Digests} {initial bytes : Nat → UInt8} {memory : Memory}
    {values : List AttributeValue} {total : Nat} (sent : memory.string = region bytes 0 total)
    (ends : start + blocks values = total) (small : blocks values ≤ 65535)
    (placed : Placed digests initial bytes start values) :
    Tiles memory.string start (starts start values) ∧
      (starts start values).map (tileAttribute memory) = placedAttributes memory start values := by
  have length : memory.string.length = total := by rw [sent, length_region]
  induction values generalizing start with
  | nil =>
    rw [blocks_nil, Nat.add_zero] at ends
    exact ⟨(length.trans ends.symm) ▸ .done, rfl⟩
  | cons value values ih =>
    obtain ⟨header, -, -, rest⟩ := placed
    obtain ⟨type, size⟩ := attributeHeaderWritten header
    rw [blocks_cons] at ends small
    have block : blockSize value = 4 + aligned (byteSizeLongValue value) := rfl
    have padded := le_aligned (byteSizeLongValue value)
    have atType : field16 memory.string start = getAttributeMsgType value.kind := by
      rw [sent, field16_region (by omega), type, ofNet16_net16]
    have atLength : field16 memory.string (start + 2) =
        UInt16.ofNat (byteSizeLongValue value) := by
      rw [sent, field16_region (by omega), size, ofNet16_net16]
    have tile : tileLength memory.string start = byteSizeLongValue value := by
      rw [tileLength, atLength, UInt16.toNat_ofNat_of_lt' (show _ < 65536 by omega)]
    have next : start + 4 + aligned (tileLength memory.string start) =
        start + blockSize value := by
      rw [tile]
      omega
    obtain ⟨tiled, found⟩ := ih (by omega) (by omega) rest
    refine ⟨.tile (by omega) (next.symm ▸ tiled), ?_⟩
    rw [starts, List.map_cons, placedAttributes, found, tileAttribute, atType, atLength]
    rfl

/-! ## A value among others -/

theorem blocks_append (before values : List AttributeValue) :
    blocks (before ++ values) = blocks before + blocks values := by
  rw [blocks, List.map_append, List.sum_append, blocks, blocks]

/-- The attributes behind others. -/
theorem Placed.behind {digests : Digests} {initial bytes : Nat → UInt8}
    {before values : List AttributeValue}
    (placed : Placed digests initial bytes start (before ++ values)) :
    Placed digests initial bytes (start + blocks before) values := by
  induction before generalizing start with
  | nil => exact placed
  | cons value before ih =>
    rw [blocks_cons, ← Nat.add_assoc]
    exact ih placed.2.2.2

theorem placedAttributes_append (memory : Memory) (start : Nat)
    (before values : List AttributeValue) :
    placedAttributes memory start (before ++ values) =
      placedAttributes memory start before ++
        placedAttributes memory (start + blocks before) values := by
  induction before generalizing start with
  | nil => rfl
  | cons value before ih =>
    rw [List.cons_append, placedAttributes, ih, placedAttributes, blocks_cons, Nat.add_assoc,
      List.cons_append]

theorem type_of_mem_placedAttributes {memory : Memory} {values : List AttributeValue}
    {attr : Attribute} (mem : attr ∈ placedAttributes memory start values) :
    ∃ value ∈ values, attr.header.type = getAttributeMsgType value.kind := by
  induction values generalizing start with
  | nil => cases mem
  | cons value values ih =>
    obtain rfl | later := List.mem_cons.mp mem
    · exact ⟨value, List.mem_cons_self, rfl⟩
    · obtain ⟨other, among, same⟩ := ih later
      exact ⟨other, List.mem_cons_of_mem value among, same⟩

theorem get_attributeAt {memory : Memory} {header : AttributeHeader} {offset : Nat}
    (room : offset + header.length.toNat ≤ memory.capacity) (type : AttributeType) :
    (attributeAt memory header offset).get type = (do
      let value ← parseValue { memory with size := offset + header.length.toNat } offset type
      require (value.2 = offset + header.length.toNat) (.thrown "data has invalid size")
      .ok value.1) := by
  show (memory.resize (offset + header.length.toNat) >>= _) = _
  rw [Memory.resize, if_neg (by omega), ok_bind]

theorem getDataSerialized_attributeAt (memory : Memory) (header : AttributeHeader) (offset : Nat) :
    (attributeAt memory header offset).getDataSerialized = .ok (memory, offset) := rfl

theorem toNat_valueHeader {value : AttributeValue} (small : byteSizeLongValue value ≤ 65535) :
    (valueHeader value).length.toNat = byteSizeLongValue value :=
  UInt16.toNat_ofNat_of_lt' (show _ < 65536 by omega)

/-! ## The message that is parsed -/

section Parse

variable {digests : Digests} {memory : Nat → UInt8} {out : Destination} {header : Header}
  {values : List AttributeValue}

theorem MessageWritten.acceptsHeader (written : MessageWritten digests memory header values out)
    (known : ∃ stunClass stunMethod, header.type = encodeMsgType stunClass stunMethod)
    (magic : header.magic = stunMagic) (length : header.payloadLength.toNat = blocks values) :
    AcceptsHeader (region out.bytes 0 (20 + blocks values)) ∧
      HeaderOf (region out.bytes 0 (20 + blocks values)) header := by
  have fields := headerWritten written.header
  have atType : field16 (region out.bytes 0 (20 + blocks values)) 0 = header.type := by
    rw [field16_region (by omega), fields.type, ofNet16_net16]
  have atLength : field16 (region out.bytes 0 (20 + blocks values)) 2 = header.payloadLength := by
    rw [field16_region (by omega), fields.payloadLength, ofNet16_net16]
  have atMagic : field32 (region out.bytes 0 (20 + blocks values)) 4 = header.magic := by
    rw [field32_region (by omega), fields.magic, ofNet32_net32]
  have first : (region out.bytes 0 (20 + blocks values)).headD 0 &&& 0xC0 = 0 := by
    have split : 20 + blocks values = 2 + (18 + blocks values) := by omega
    obtain ⟨stunClass, stunMethod, same⟩ := known
    rw [split, region_add, fields.type, headD_net16_append, same]
    cases stunMethod
    cases stunClass <;> decide
  refine ⟨⟨?_, first, atMagic.trans magic, ?_, ?_, atType.symm ▸ known⟩,
    ⟨atType.symm, atLength.symm, magic, ?_⟩⟩
  · rw [length_region]
    exact Nat.le_add_right ..
  · rw [atLength, length]
    exact dvd_blocks values
  · rw [atLength, length, length_region, Nat.add_sub_cancel_left]
  · rw [drop_take_region (by omega), fields.transactionId]

/-- **What was serialised is parsed.** -/
theorem parseMessage_written (written : MessageWritten digests memory header values out)
    (known : ∃ stunClass stunMethod, header.type = encodeMsgType stunClass stunMethod)
    (magic : header.magic = stunMagic) (length : header.payloadLength.toNat = blocks values)
    (spare : Nat) (isMutable : Bool) :
    parseMessage (received (region out.bytes 0 (20 + blocks values)) spare isMutable) =
      .ok { header
            attributes := placedAttributes
              (received (region out.bytes 0 (20 + blocks values)) spare isMutable) 20 values } := by
  have small : blocks values ≤ 65535 := by
    have bound := header.payloadLength.toNat_lt
    omega
  obtain ⟨accepted, reads⟩ := written.acceptsHeader known magic length
  have holds : (received (region out.bytes 0 (20 + blocks values)) spare isMutable).string =
      region out.bytes 0 (20 + blocks values) := rfl
  obtain ⟨tiled, found⟩ := written.placed.tiles holds rfl small
  exact (parseMessage_eq_ok rfl).mpr ⟨accepted, reads, _, tiled, found.symm⟩

end Parse

/-! ## Sending a message -/

/-- A message is built from values and serialised to a memory: what was written, and the bytes. -/
def sendMessage (digests : Digests) (memory : Nat → UInt8) (type : UInt16)
    (transactionId : { bytes : Bytes // bytes.length = 12 }) (values : List AttributeValue) :
    Except Fault (Destination × Bytes) := do
  let message ← buildMessage type transactionId values
  let size ← byteSizeLongMessage message
  let done ← serializeMessage digests memory message
  .ok (done.1, region done.1.bytes 0 size)

section Send

variable {values : List AttributeValue}

theorem byteSizeLongMessage_builtMessage (type : UInt16)
    (transactionId : { bytes : Bytes // bytes.length = 12 }) (values : List AttributeValue) :
    byteSizeLongMessage (builtMessage type transactionId values) = .ok (20 + blocks values) := by
  show (byteSizeLongAttributes (values.map parsedAttribute) >>= _) = _
  rw [byteSizeLongAttributes_parsed, ok_bind]

/-- **Values that fit are sent.** -/
theorem sendMessage_of_le (digests : Digests) (memory : Nat → UInt8) (type : UInt16)
    (transactionId : { bytes : Bytes // bytes.length = 12 }) (small : blocks values ≤ 65535) :
    ∃ out, sendMessage digests memory type transactionId values =
        .ok (out, region out.bytes 0 (20 + blocks values)) ∧
      MessageWritten digests memory (builtMessage type transactionId values).header values out := by
  obtain ⟨out, next, done⟩ := serializeMessage_of_le digests memory type transactionId small
  refine ⟨out, ?_, (serializeMessage_written done).2⟩
  rw [sendMessage, buildMessage_of_le small, ok_bind, byteSizeLongMessage_builtMessage, ok_bind,
    done, ok_bind]

theorem sendMessage_ok {digests : Digests} {memory : Nat → UInt8} {type : UInt16}
    {transactionId : { bytes : Bytes // bytes.length = 12 }} {out : Destination} {bytes : Bytes}
    (sent : sendMessage digests memory type transactionId values = .ok (out, bytes)) :
    blocks values ≤ 65535 ∧ bytes = region out.bytes 0 (20 + blocks values) ∧
      MessageWritten digests memory (builtMessage type transactionId values).header values out := by
  have sentBytes := sent
  obtain ⟨message, built, -⟩ := bind_eq_ok.mp sent
  have small := (buildMessage_ok built).2
  obtain ⟨same, done, written⟩ := sendMessage_of_le digests memory type transactionId small
  rw [done] at sentBytes
  cases sentBytes
  exact ⟨small, rfl, written⟩

theorem toNat_payloadLength (type : UInt16)
    (transactionId : { bytes : Bytes // bytes.length = 12 }) (small : blocks values ≤ 65535) :
    (builtMessage type transactionId values).header.payloadLength.toNat = blocks values :=
  UInt16.toNat_ofNat_of_lt' (show _ < 65536 by omega)

end Send

end Rstream.Stun
