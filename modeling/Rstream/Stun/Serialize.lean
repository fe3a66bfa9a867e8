import Rstream.Stun.Types

/-!
# Serialising a message

A message is written attribute by attribute. Before each attribute the length in the header is set
to that of the message up to the end of the attribute, so an integrity or a fingerprint is computed
over a message that ends with it, and an address is masked with the header that is written already.

What one attribute writes is stated once (`serializeAttribute_parsed`); from it follows where every
attribute of a message ends up and what is left of the memory before (`serializeAttributes_placed`).
An attribute whose value is no multiple of four bytes leaves its first byte of padding as it was,
since the loop that writes the padding advances before it writes, and writes one byte behind it.
-/

namespace Rstream.Stun

open Library List

/-! ## The source -/

def byteSizeLongValue : AttributeValue → Nat
  | .mappedAddress value | .xorMappedAddress value | .alternateServer value
  | .responseOrigin value | .otherAddress value => 4 + value.address.length
  | .username value | .realm value | .nonce value | .software value | .padding value =>
    value.length
  | .messageIntegrity _ => 20
  | .fingerprint _ => 4
  | .errorCode _ _ reason => 2 + reason.length
  | .unknownAttributes value => 2 * value.length
  | .priority _ => 4
  | .useCandidate => 0
  | .iceControlled _ => 8
  | .iceControlling _ => 8
  | .changeRequest _ => 4
  | .responsePort _ => 2
  | .cacheTimeout => 0

/-- `serialize_value<stun_address_family>`. -/
def familyByte : StunAddressFamily → UInt8
  | .ipv4 => 0x01
  | .ipv6 => 0x02

/-- `attribute_value_xor_mapped_address::mask_type`. -/
abbrev Mask := { bytes : Bytes // bytes.length = 16 }

/-- Bytes with a mask, byte by byte. -/
def xorBytes (bytes mask : Bytes) : Bytes := List.zipWith (· ^^^ ·) bytes mask

theorem addressLength_le (family : StunAddressFamily) : family.addressLength ≤ 16 := by
  cases family <;> decide

def MappedAddress.applyMask (mask : Mask) (value : MappedAddress) : MappedAddress where
  padding := value.padding
  family := value.family
  port := ofNet16 (xorBytes (net16 value.port) mask.val)
  address := xorBytes value.address mask.val
  fits := by
    rw [xorBytes, List.length_zipWith, value.fits, mask.property]
    exact Nat.min_eq_left (addressLength_le value.family)

/-- `attribute_value_xor_mapped_address::read_mask`: the magic and the transaction. -/
def readMask (memory : Nat → UInt8) : Mask := ⟨region memory 4 16, length_region ..⟩

/-- `serialize_value<attribute_value_mapped_address_base>`. -/
def encodeMappedAddress (value : MappedAddress) : Bytes :=
  [value.padding, familyByte value.family] ++ net16 value.port ++ value.address

/-- What `serialize_value` writes for a value at an offset of a memory. -/
def encodeValue (digests : Digests) (memory : Nat → UInt8) (offset : Nat) :
    AttributeValue → Bytes
  | .mappedAddress value | .alternateServer value | .responseOrigin value
  | .otherAddress value => encodeMappedAddress value
  | .xorMappedAddress value => encodeMappedAddress (value.applyMask (readMask memory))
  | .username value | .realm value | .nonce value | .software value | .padding value => value
  | .messageIntegrity .undefined => []
  | .messageIntegrity (.input password) =>
    digests.hmacSha1 (region memory 0 (offset - 4)) password
  | .messageIntegrity (.output serialized) => serialized
  | .fingerprint (some value) => host32 value
  | .fingerprint none => net32 (digests.fingerprintCrc32 (region memory 0 (offset - 4)))
  | .errorCode codeClass codeNumber reason => [codeClass, codeNumber] ++ reason
  | .unknownAttributes value => value.flatMap host16
  | .priority value => host32 value
  | .useCandidate => []
  | .iceControlled value => host64 value
  | .iceControlling value => host64 value
  | .changeRequest value => host32 value
  | .responsePort value => net16 value
  | .cacheTimeout => []

/-- `attribute::make(const T&)`. -/
def makeAttribute (value : AttributeValue) : Except Fault Attribute := do
  let length ← checkedLength (byteSizeLongValue value) 0
  .ok { header := { type := getAttributeMsgType value.kind, length }, data := .parsed value }

/-- `memory::share`, as far as its size and its bytes are asked for. -/
def Memory.share (memory : Memory) (offset size : Nat) :
    Except Fault { bytes : Bytes // bytes.length = size } :=
  if offset > memory.capacity ∨ size > memory.capacity - offset then
    .error (.thrown "invalid_size")
  else memory.read offset size

/-- `byte_size_long_value<attribute>`. -/
def byteSizeLongAttribute (attr : Attribute) : Except Fault Nat :=
  match attr.data with
  | .undefined => .error (.thrown "attribute is undefined")
  | .serialized memory offset size => do
      let _ ← memory.share offset size
      .ok (aligned size + 4)
  | .parsed value => .ok (aligned (byteSizeLongValue value) + 4)

/-- `byte_size_long_value<attributes>`. -/
def byteSizeLongAttributes (attributes : List Attribute) : Except Fault Nat :=
  attributes.foldlM (fun size attr => do
    let more ← byteSizeLongAttribute attr
    .ok (size + more)) 0

/-- The memory that is serialised to, and the indices that were written. -/
structure Destination where
  bytes : Nat → UInt8
  written : List Nat := []

/-- Bytes are copied to an offset. -/
def Destination.write (dst : Destination) (offset : Nat) (bytes : Bytes) : Destination where
  bytes := overwrite dst.bytes offset bytes
  written := List.range' offset bytes.length ++ dst.written

/-- The loop that aligns an attribute. -/
def alignAttribute : Nat → Destination → Nat → Destination × Nat
  | 0, dst, offset => (dst, offset)
  | count + 1, dst, offset => alignAttribute count (dst.write (offset + 1) [0]) (offset + 1)

/-- What is written behind the header of an attribute. -/
def attributeBytes (digests : Digests) (memory : Nat → UInt8) (offset : Nat) :
    AttributeData → Except Fault Bytes
  | .undefined => .error (.thrown "attribute is undefined")
  | .serialized memory offset size => do
      let bytes ← memory.share offset size
      .ok bytes.val
  | .parsed value => .ok (encodeValue digests memory offset value)

/-- `serialize_value<attribute>`. -/
def serializeAttribute (digests : Digests) (dst : Destination) (attr : Attribute)
    (offset : Nat) : Except Fault (Destination × Nat) := do
  let size ← byteSizeLongAttribute attr
  let dst := dst.write offset (net16 attr.header.type ++ net16 attr.header.length)
  let bytes ← attributeBytes digests dst.bytes (offset + 4) attr.data
  .ok (alignAttribute (size - (4 + bytes.length)) (dst.write (offset + 4) bytes)
    (offset + 4 + bytes.length))

/-- `serialize_value<attributes>`. -/
def serializeAttributes (digests : Digests) : List Attribute → Destination → Nat → UInt16 →
    Except Fault (Destination × Nat)
  | [], dst, offset, _ => .ok (dst, offset)
  | attr :: attributes, dst, offset, payloadLength => do
      let size ← byteSizeLongAttribute attr
      let payloadLength ← checkedLength size payloadLength
      let (dst, offset) ←
        serializeAttribute digests (dst.write 2 (net16 payloadLength)) attr offset
      serializeAttributes digests attributes dst offset payloadLength

/-- `serialize_value<header>`. -/
def encodeHeader (header : Header) : Bytes :=
  net16 header.type ++ net16 header.payloadLength ++ net32 header.magic ++ header.transactionId.val

/-- `serialize_value<message>` from the start of a memory. -/
def serializeMessage (digests : Digests) (memory : Nat → UInt8) (message : Message) :
    Except Fault (Destination × Nat) :=
  let dst : Destination := { bytes := memory }
  serializeAttributes digests message.attributes (dst.write 0 (encodeHeader message.header)) 20 0

/-- `byte_size_long_value<message>`. -/
def byteSizeLongMessage (message : Message) : Except Fault Nat := do
  let size ← byteSizeLongAttributes message.attributes
  .ok (20 + size)

/-- `message_builder(msg_type, transaction_id)`. -/
def messageBuilder (type : UInt16) (transactionId : { bytes : Bytes // bytes.length = 12 }) :
    Message where
  header := { type, magic := stunMagic, transactionId }
  attributes := []

def addAttribute (message : Message) (value : AttributeValue) : Except Fault Message := do
  let attr ← makeAttribute value
  .ok { message with attributes := message.attributes ++ [attr] }

def build (message : Message) : Except Fault Message := do
  let size ← byteSizeLongAttributes message.attributes
  let payloadLength ← checkedLength size 0
  .ok { message with header := { message.header with payloadLength } }

/-- A message that is built from values. -/
def buildMessage (type : UInt16) (transactionId : { bytes : Bytes // bytes.length = 12 })
    (values : List AttributeValue) : Except Fault Message := do
  let message ← values.foldlM addAttribute (messageBuilder type transactionId)
  build message

/-! ## One value -/

/-- A value whose bytes fill its attribute. -/
def Exact (value : AttributeValue) : Prop :=
  byteSizeLongValue value % 4 = 0 ∧ value ≠ .messageIntegrity .undefined

theorem length_flatMap_host16 (types : List UInt16) :
    (types.flatMap host16).length = 2 * types.length := by
  induction types with
  | nil => rfl
  | cons type types ih =>
    rw [flatMap_cons, length_append, length_host16, ih, length_cons]
    omega

@[simp] theorem length_encodeMappedAddress (value : MappedAddress) :
    (encodeMappedAddress value).length = 4 + value.address.length := by
  simp only [encodeMappedAddress, length_append, length_net16, length_cons,
    length_nil]

section Encode

variable (digests : Digests) (memory : Nat → UInt8) (offset : Nat)

/-- What is written is as long as the value, unless its integrity has no data. -/
theorem length_encodeValue {value : AttributeValue}
    (defined : value ≠ .messageIntegrity .undefined) :
    (encodeValue digests memory offset value).length = byteSizeLongValue value := by
  have masked (value : MappedAddress) (mask : Mask) :
      (value.applyMask mask).address.length = value.address.length :=
    (value.applyMask mask).fits.trans value.fits.symm
  cases value with
  | xorMappedAddress value => rw [encodeValue, length_encodeMappedAddress, masked]; rfl
  | messageIntegrity data =>
    cases data with
    | undefined => exact absurd rfl defined
    | input password => exact (digests.hmacSha1 _ password).property
    | output serialized => exact serialized.property
  | fingerprint value => cases value <;> simp [encodeValue, byteSizeLongValue]
  | unknownAttributes value => exact length_flatMap_host16 value
  | errorCode codeClass codeNumber reason =>
    rw [encodeValue, length_append]
    rfl
  | _ => simp [encodeValue, byteSizeLongValue]

theorem length_encodeValue_le (value : AttributeValue) :
    (encodeValue digests memory offset value).length ≤ byteSizeLongValue value := by
  by_cases undefined : value = .messageIntegrity .undefined
  · rw [undefined]
    exact Nat.zero_le 20
  · exact (length_encodeValue digests memory offset undefined).le

/-- A value is encoded from what stands before its attribute. -/
theorem encodeValue_congr {other : Nat → UInt8} {start : Nat} (late : 20 ≤ start)
    (same : ∀ index, index < start → memory index = other index) (value : AttributeValue) :
    encodeValue digests memory (start + 4) value = encodeValue digests other (start + 4) value := by
  have before : region memory 0 (start + 4 - 4) = region other 0 (start + 4 - 4) :=
    region_congr fun index _ below => same index (by omega)
  have mask : readMask memory = readMask other :=
    Subtype.ext (region_congr fun index _ below => same index (by omega))
  cases value with
  | xorMappedAddress value => rw [encodeValue, encodeValue, mask]
  | messageIntegrity data => cases data <;> simp only [encodeValue, before]
  | fingerprint value => cases value <;> simp only [encodeValue, before]
  | _ => rfl

end Encode

/-! ## One attribute -/

/-- The size of an attribute with its header. -/
def blockSize (value : AttributeValue) : Nat := 4 + aligned (byteSizeLongValue value)

/-- The header of an attribute as it is written. -/
def attributeHeaderBytes (value : AttributeValue) : Bytes :=
  net16 (getAttributeMsgType value.kind) ++ net16 (UInt16.ofNat (byteSizeLongValue value))

@[simp] theorem length_attributeHeaderBytes (value : AttributeValue) :
    (attributeHeaderBytes value).length = 4 := by
  rw [attributeHeaderBytes, length_append, length_net16, length_net16]

/-- The attribute that is made of a value. -/
def parsedAttribute (value : AttributeValue) : Attribute where
  header := {
    type := getAttributeMsgType value.kind
    length := UInt16.ofNat (byteSizeLongValue value) }
  data := .parsed value

variable {value : AttributeValue} {start : Nat} {out : Destination} {payloadLength : UInt16}

theorem makeAttribute_ok {attr : Attribute} (made : makeAttribute value = .ok attr) :
    attr = parsedAttribute value ∧ byteSizeLongValue value ≤ 65535 := by
  obtain ⟨length, checked, made⟩ := bind_eq_ok.mp made
  have exact_ := checkedLength_ok checked
  have small := length.toNat_lt
  rw [UInt16.toNat_zero, Nat.zero_add] at exact_
  cases made
  refine ⟨?_, by omega⟩
  rw [parsedAttribute, ← exact_, UInt16.ofNat_toNat]

theorem makeAttribute_of_le (small : byteSizeLongValue value ≤ 65535) :
    makeAttribute value = .ok (parsedAttribute value) := by
  rw [makeAttribute, checkedLength_of_le (by simpa using small)]
  rfl

theorem byteSizeLongAttribute_parsed (value : AttributeValue) :
    byteSizeLongAttribute (parsedAttribute value) = .ok (blockSize value) := by
  rw [blockSize, Nat.add_comm]
  rfl

/-- The loop writes the indices behind the offset, up to the one that is past the attribute. -/
theorem alignAttribute_spec (count : Nat) (dst : Destination) (offset : Nat) :
    (alignAttribute count dst offset).2 = offset + count ∧
    (∀ index, index ≤ offset ∨ offset + count < index →
      (alignAttribute count dst offset).1.bytes index = dst.bytes index) ∧
    ∀ index ∈ (alignAttribute count dst offset).1.written,
      index ∈ dst.written ∨ offset < index ∧ index ≤ offset + count := by
  induction count generalizing dst offset with
  | zero => exact ⟨rfl, fun _ _ => rfl, fun _ mem => .inl mem⟩
  | succ count ih =>
    obtain ⟨ends, kept, written⟩ := ih (dst.write (offset + 1) [0]) (offset + 1)
    refine ⟨ends.trans (by omega), fun index outside => ?_, fun index mem => ?_⟩
    · rw [alignAttribute, kept index (by omega)]
      exact overwrite_outside _ (by rw [length_singleton]; omega)
    · rcases written index mem with earlier | later
      · rcases mem_append.mp earlier with here | before
        · rw [mem_range'_1, length_singleton] at here
          exact .inr (by omega)
        · exact .inl before
      · exact .inr (by omega)

/-- What an attribute leaves behind in the memory. -/
structure AttributeWritten (digests : Digests) (before : Destination) (value : AttributeValue)
    (start : Nat) (after : Destination) : Prop where
  kept : ∀ index, index < start ∨ start + blockSize value < index →
    after.bytes index = before.bytes index
  header : region after.bytes start 4 = attributeHeaderBytes value
  coded : region after.bytes (start + 4)
      (encodeValue digests before.bytes (start + 4) value).length =
    encodeValue digests before.bytes (start + 4) value
  padding : after.bytes (start + 4 + (encodeValue digests before.bytes (start + 4) value).length) =
    before.bytes (start + 4 + (encodeValue digests before.bytes (start + 4) value).length)
  written : Exact value → ∀ index ∈ after.written,
    index ∈ before.written ∨ index < start + blockSize value

theorem serializeAttribute_parsed (digests : Digests) (dst : Destination) (value : AttributeValue)
    (late : 20 ≤ start) :
    ∃ out, serializeAttribute digests dst (parsedAttribute value) start =
        .ok (out, start + blockSize value) ∧
      AttributeWritten digests dst value start out := by
  have same : encodeValue digests (dst.write start (attributeHeaderBytes value)).bytes (start + 4)
      value = encodeValue digests dst.bytes (start + 4) value :=
    encodeValue_congr digests _ late (fun index below => overwrite_outside _ (.inl below)) value
  have short := length_encodeValue_le digests dst.bytes (start + 4) value
  have long := le_aligned (byteSizeLongValue value)
  generalize coded : encodeValue digests dst.bytes (start + 4) value = bytes at same short
  obtain ⟨ends, kept, written⟩ := alignAttribute_spec (blockSize value - (4 + bytes.length))
    ((dst.write start (attributeHeaderBytes value)).write (start + 4) bytes)
    (start + 4 + bytes.length)
  have headerLength := length_attributeHeaderBytes value
  have size : blockSize value = 4 + aligned (byteSizeLongValue value) := rfl
  have valueKept : ∀ index, index < start + 4 ∨ start + 4 + bytes.length ≤ index →
      ((dst.write start (attributeHeaderBytes value)).write (start + 4) bytes).bytes index =
        (dst.write start (attributeHeaderBytes value)).bytes index := fun index outside =>
    overwrite_outside _ outside
  have headerKept : ∀ index, index < start ∨ start + 4 ≤ index →
      (dst.write start (attributeHeaderBytes value)).bytes index = dst.bytes index :=
    fun index outside => overwrite_outside _ (headerLength.symm ▸ outside)
  refine ⟨(alignAttribute (blockSize value - (4 + bytes.length))
    ((dst.write start (attributeHeaderBytes value)).write (start + 4) bytes)
    (start + 4 + bytes.length)).1, ?_, ?kept, ?header, ?coded, ?padding, ?written⟩
  · have run : serializeAttribute digests dst (parsedAttribute value) start =
        .ok (alignAttribute (blockSize value - (4 + (encodeValue digests
            (dst.write start (attributeHeaderBytes value)).bytes (start + 4) value).length))
          ((dst.write start (attributeHeaderBytes value)).write (start + 4) (encodeValue digests
            (dst.write start (attributeHeaderBytes value)).bytes (start + 4) value))
          (start + 4 + (encodeValue digests
            (dst.write start (attributeHeaderBytes value)).bytes (start + 4) value).length)) := by
      rw [serializeAttribute, byteSizeLongAttribute_parsed]
      rfl
    rw [run, same]
    refine congrArg Except.ok (Prod.ext rfl (ends.trans ?_))
    show start + 4 + bytes.length + (blockSize value - (4 + bytes.length)) = start + blockSize value
    omega
  case kept =>
    intro index outside
    rw [kept index (by omega), valueKept index (by omega), headerKept index (by omega)]
  case header =>
    have header := region_overwrite dst.bytes start (attributeHeaderBytes value)
    rw [headerLength] at header
    refine (region_congr fun index above below => ?_).trans header
    exact (kept index (by omega)).trans (valueKept index (by omega))
  case coded =>
    rw [coded]
    have value := region_overwrite (dst.write start (attributeHeaderBytes value)).bytes (start + 4)
      bytes
    refine (region_congr fun index above below => ?_).trans value
    exact kept index (by omega)
  case padding =>
    rw [coded, kept _ (by omega), valueKept _ (by omega), headerKept _ (by omega)]
  case written =>
    rintro ⟨multiple, defined⟩ index mem
    have full : bytes.length = byteSizeLongValue value :=
      coded ▸ length_encodeValue digests dst.bytes (start + 4) defined
    have fits : aligned (byteSizeLongValue value) = byteSizeLongValue value := by
      rw [aligned]
      omega
    rcases written index mem with earlier | later
    · rcases mem_append.mp earlier with inValue | before
      · rw [mem_range'_1] at inValue
        exact .inr (by omega)
      · rcases mem_append.mp before with inHeader | before
        · rw [mem_range'_1, headerLength] at inHeader
          exact .inr (by omega)
        · exact .inl before
    · omega

/-! ## A list of attributes -/

/-- The size of the attributes of some values. -/
def blocks (values : List AttributeValue) : Nat := (values.map blockSize).sum

@[simp] theorem blocks_nil : blocks [] = 0 := rfl

@[simp] theorem blocks_cons (value : AttributeValue) (values : List AttributeValue) :
    blocks (value :: values) = blockSize value + blocks values := sum_cons

/-- A message with another length in its header. -/
def withLength (memory : Nat → UInt8) (length : Nat) : Nat → UInt8 :=
  overwrite memory 2 (net16 (UInt16.ofNat length))

/-- A value as it is encoded in a message that ends with its attribute. -/
def encodedAt (digests : Digests) (memory : Nat → UInt8) (start : Nat) (value : AttributeValue) :
    Bytes :=
  encodeValue digests (withLength memory (start + blockSize value - 20)) (start + 4) value

/-- The attributes of some values are in the memory, and the first byte of each padding is that of
the memory before. -/
def Placed (digests : Digests) (initial memory : Nat → UInt8) : Nat → List AttributeValue → Prop
  | _, [] => True
  | start, value :: values =>
    region memory start 4 = attributeHeaderBytes value ∧
    region memory (start + 4) (encodedAt digests memory start value).length =
      encodedAt digests memory start value ∧
    (start + 4 + (encodedAt digests memory start value).length < start + blockSize value →
      memory (start + 4 + (encodedAt digests memory start value).length) =
        initial (start + 4 + (encodedAt digests memory start value).length)) ∧
    Placed digests initial memory (start + blockSize value) values

theorem Placed.congr_initial {digests : Digests} {initial other memory : Nat → UInt8}
    {values : List AttributeValue} (same : ∀ index, start < index → initial index = other index)
    (placed : Placed digests initial memory start values) :
    Placed digests other memory start values := by
  induction values generalizing start with
  | nil => trivial
  | cons value values ih =>
    obtain ⟨header, coded, padding, rest⟩ := placed
    refine ⟨header, coded, fun inside => ?_, ih (fun index above => same index ?_) rest⟩
    · rw [padding inside, same _ (by omega)]
    · have size : blockSize value = 4 + aligned (byteSizeLongValue value) := rfl
      omega

/-- What the attributes leave behind in the memory. -/
structure AttributesWritten (digests : Digests) (before : Destination)
    (values : List AttributeValue) (start : Nat) (after : Destination) : Prop where
  kept : ∀ index, index < start → index < 2 ∨ 4 ≤ index → after.bytes index = before.bytes index
  unchanged : values = [] → after = before
  length : values ≠ [] → region after.bytes 2 2 = net16 (UInt16.ofNat (start + blocks values - 20))
  placed : Placed digests before.bytes after.bytes start values
  written : (∀ value ∈ values, Exact value) → ∀ index ∈ after.written,
    index ∈ before.written ∨ index < start + blocks values

/-- One attribute and those behind it. -/
theorem AttributesWritten.cons {digests : Digests} {dst mid : Destination}
    {values : List AttributeValue} (late : 20 ≤ start)
    (length : payloadLength.toNat = start + blockSize value - 20)
    (first : AttributeWritten digests (dst.write 2 (net16 payloadLength)) value start mid)
    (rest : AttributesWritten digests mid values (start + blockSize value) out) :
    AttributesWritten digests dst (value :: values) start out := by
  have size : blockSize value = 4 + aligned (byteSizeLongValue value) := rfl
  have long := le_aligned (byteSizeLongValue value)
  have lengthBytes : net16 payloadLength =
      net16 (UInt16.ofNat (start + blockSize value - 20)) := by
    rw [← length, UInt16.ofNat_toNat]
  have two := length_net16 payloadLength
  have lengthKept : ∀ index, index < 2 ∨ 4 ≤ index →
      (dst.write 2 (net16 payloadLength)).bytes index = dst.bytes index := fun index outside =>
    overwrite_outside _ (by omega)
  have firstKept : ∀ index, index < start → index < 2 ∨ 4 ≤ index →
      out.bytes index = dst.bytes index := fun index below outside => by
    rw [rest.kept index (by omega) outside, first.kept index (.inl below), lengthKept index outside]
  have coded : encodeValue digests (dst.write 2 (net16 payloadLength)).bytes (start + 4) value =
      encodedAt digests out.bytes start value := by
    refine encodeValue_congr digests _ late (fun index below => ?_) value
    rw [withLength, ← lengthBytes]
    by_cases inLength : 2 ≤ index ∧ index < 4
    · exact overwrite_inside _ _ inLength.1 (by omega)
    · rw [lengthKept index (by omega), overwrite_outside _ (by omega),
        firstKept index below (by omega)]
  have encodedLength : (encodedAt digests out.bytes start value).length ≤
      byteSizeLongValue value := length_encodeValue_le ..
  refine ⟨firstKept, (fun empty => nomatch empty), fun _ => ?total, ⟨?header, ?coded, ?padding, ?rest⟩,
    ?written⟩
  case total =>
    cases values with
    | nil =>
      rw [rest.unchanged rfl, blocks_cons, blocks_nil, Nat.add_zero, ← lengthBytes]
      rw [region_congr fun index above below => first.kept index (.inl (by omega)), ← two]
      exact region_overwrite dst.bytes 2 (net16 payloadLength)
    | cons next values =>
      rw [rest.length (cons_ne_nil next values), blocks_cons value, Nat.add_assoc]
  case header =>
    rw [← first.header]
    exact region_congr fun index above below => rest.kept index (by omega) (by omega)
  case coded =>
    rw [← coded]
    refine (region_congr fun index above below => ?_).trans first.coded
    rw [coded] at below
    exact rest.kept index (by omega) (by omega)
  case padding =>
    intro inside
    rw [rest.kept _ inside (by omega), ← coded, first.padding, lengthKept _ (by omega)]
  case rest =>
    refine rest.placed.congr_initial fun index above => ?_
    rw [first.kept index (.inr above), lengthKept index (by omega)]
  case written =>
    intro exact_ index mem
    rw [forall_mem_cons] at exact_
    rw [blocks_cons]
    rcases rest.written exact_.2 index mem with inMid | below
    · rcases first.written exact_.1 index inMid with inFirst | below
      · rcases mem_append.mp inFirst with inLength | before
        · rw [mem_range'_1] at inLength
          exact .inr (by omega)
        · exact .inl before
      · exact .inr (by omega)
    · exact .inr (by omega)

/-- **Where the attributes of a message end up.** -/
theorem serializeAttributes_placed {digests : Digests} {values : List AttributeValue}
    {dst : Destination} {next : Nat} (late : 20 ≤ start) (length : start = 20 + payloadLength.toNat)
    (done : serializeAttributes digests (values.map parsedAttribute) dst start payloadLength =
      .ok (out, next)) :
    next = start + blocks values ∧ AttributesWritten digests dst values start out := by
  induction values generalizing dst start payloadLength with
  | nil =>
    cases done
    exact ⟨rfl, fun _ _ _ => rfl, fun _ => rfl, fun some_ => absurd rfl some_, trivial,
      fun _ _ mem => .inl mem⟩
  | cons value values ih =>
    rw [map_cons, serializeAttributes, byteSizeLongAttribute_parsed, ok_bind] at done
    obtain ⟨more, checked, done⟩ := bind_eq_ok.mp done
    have sum := checkedLength_ok checked
    obtain ⟨mid, written, first⟩ :=
      serializeAttribute_parsed digests (dst.write 2 (net16 more)) value late
    rw [written, ok_bind] at done
    obtain ⟨ends, rest⟩ := ih (by omega) (by omega) done
    refine ⟨?_, .cons late (by omega) first rest⟩
    rw [ends, blocks_cons, Nat.add_assoc]

/-- Attributes that fit are written. -/
theorem serializeAttributes_of_le (digests : Digests) (values : List AttributeValue)
    (dst : Destination) (late : 20 ≤ start) (small : payloadLength.toNat + blocks values ≤ 65535) :
    ∃ out next, serializeAttributes digests (values.map parsedAttribute) dst start payloadLength =
      .ok (out, next) := by
  induction values generalizing dst start payloadLength with
  | nil => exact ⟨dst, start, rfl⟩
  | cons value values ih =>
    rw [blocks_cons] at small
    have checked : checkedLength (blockSize value) payloadLength = _ :=
      checkedLength_of_le (by omega)
    have sum := checkedLength_ok checked
    obtain ⟨mid, written, -⟩ := serializeAttribute_parsed digests (dst.write 2 (net16
      (UInt16.ofNat (blockSize value + payloadLength.toNat)))) value late
    rw [map_cons, serializeAttributes, byteSizeLongAttribute_parsed, ok_bind, checked,
      ok_bind, written, ok_bind]
    exact ih _ (by omega) (by omega)

/-! ## A message -/

/-- The message that is built from values. -/
def builtMessage (type : UInt16) (transactionId : { bytes : Bytes // bytes.length = 12 })
    (values : List AttributeValue) : Message where
  header := {
    type
    payloadLength := UInt16.ofNat (blocks values)
    magic := stunMagic
    transactionId }
  attributes := values.map parsedAttribute

section Build

variable {type : UInt16} {transactionId : { bytes : Bytes // bytes.length = 12 }}
  {values : List AttributeValue}

theorem byteSizeLongAttributes_parsed (values : List AttributeValue) :
    byteSizeLongAttributes (values.map parsedAttribute) = .ok (blocks values) := by
  have folded : ∀ size, (values.map parsedAttribute).foldlM (fun size attr => do
      let more ← byteSizeLongAttribute attr
      .ok (size + more)) size = (.ok (size + blocks values) : Except Fault Nat) := by
    induction values with
    | nil => exact fun size => rfl
    | cons value values ih =>
      intro size
      rw [map_cons, foldlM_cons, byteSizeLongAttribute_parsed, ok_bind, ok_bind, ih,
        blocks_cons, Nat.add_assoc]
  rw [byteSizeLongAttributes, folded, Nat.zero_add]

theorem foldlM_addAttribute {message built : Message}
    (added : values.foldlM addAttribute message = .ok built) :
    built = { message with attributes := message.attributes ++ values.map parsedAttribute } := by
  induction values generalizing message with
  | nil =>
    cases added
    rw [map_nil, append_nil]
  | cons value values ih =>
    rw [foldlM_cons] at added
    obtain ⟨next, first, rest⟩ := bind_eq_ok.mp added
    obtain ⟨attr, made, first⟩ := bind_eq_ok.mp first
    cases first
    rw [ih rest, (makeAttribute_ok made).1, map_cons, append_assoc,
      singleton_append]

theorem foldlM_addAttribute_of_le (message : Message)
    (small : ∀ value ∈ values, byteSizeLongValue value ≤ 65535) :
    values.foldlM addAttribute message =
      .ok { message with attributes := message.attributes ++ values.map parsedAttribute } := by
  induction values generalizing message with
  | nil => rw [map_nil, append_nil, foldlM_nil]; rfl
  | cons value values ih =>
    rw [forall_mem_cons] at small
    rw [foldlM_cons, addAttribute, makeAttribute_of_le small.1, ok_bind, ok_bind, ih _ small.2,
      map_cons, append_assoc, singleton_append]

theorem byteSizeLongValue_le_blocks {value : AttributeValue} (mem : value ∈ values) :
    byteSizeLongValue value ≤ blocks values := by
  induction values with
  | nil => cases mem
  | cons first values ih =>
    have size : blockSize first = 4 + aligned (byteSizeLongValue first) := rfl
    have long := le_aligned (byteSizeLongValue first)
    rw [blocks_cons]
    obtain rfl | later := mem_cons.mp mem
    · omega
    · exact (ih later).trans (Nat.le_add_left ..)

/-- What is built. -/
theorem buildMessage_ok {message : Message}
    (built : buildMessage type transactionId values = .ok message) :
    message = builtMessage type transactionId values ∧ blocks values ≤ 65535 := by
  obtain ⟨attributes, added, built⟩ := bind_eq_ok.mp built
  rw [foldlM_addAttribute added] at built
  obtain ⟨size, sized, built⟩ := bind_eq_ok.mp built
  have sizes : byteSizeLongAttributes (values.map parsedAttribute) = .ok size := sized
  rw [byteSizeLongAttributes_parsed] at sizes
  cases sizes
  obtain ⟨payloadLength, checked, built⟩ := bind_eq_ok.mp built
  have sum := checkedLength_ok checked
  have bound := payloadLength.toNat_lt
  rw [UInt16.toNat_zero, Nat.zero_add] at sum
  cases built
  refine ⟨?_, by omega⟩
  rw [builtMessage, ← sum, UInt16.ofNat_toNat]
  rfl

theorem buildMessage_of_le (small : blocks values ≤ 65535) :
    buildMessage type transactionId values = .ok (builtMessage type transactionId values) := by
  have each : ∀ value ∈ values, byteSizeLongValue value ≤ 65535 := fun value mem =>
    (byteSizeLongValue_le_blocks mem).trans small
  rw [buildMessage, foldlM_addAttribute_of_le _ each, ok_bind]
  show (byteSizeLongAttributes (values.map parsedAttribute) >>= _) = _
  rw [byteSizeLongAttributes_parsed, ok_bind, checkedLength_of_le (by simpa using small), ok_bind]
  rfl

end Build

/-- What a message leaves behind in the memory. -/
structure MessageWritten (digests : Digests) (memory : Nat → UInt8) (header : Header)
    (values : List AttributeValue) (out : Destination) : Prop where
  header : region out.bytes 0 20 = encodeHeader header
  placed : Placed digests memory out.bytes 20 values
  written : (∀ value ∈ values, Exact value) → ∀ index ∈ out.written, index < 20 + blocks values

theorem length_encodeHeader (header : Header) : (encodeHeader header).length = 20 := by
  simp only [encodeHeader, length_append, length_net16, length_net32,
    header.transactionId.property]

theorem region_length (memory : Nat → UInt8) (header : Header) :
    region (overwrite memory 0 (encodeHeader header)) 2 2 = net16 header.payloadLength := by
  have whole := region_overwrite memory 0 (encodeHeader header)
  have part : ((region (overwrite memory 0 (encodeHeader header)) 0 20).drop 2).take 2 =
      region (overwrite memory 0 (encodeHeader header)) (0 + 2) 2 :=
    take_drop_region _ (by omega)
  rw [length_encodeHeader] at whole
  rw [whole, encodeHeader, append_assoc, append_assoc,
    drop_left' (length_net16 _), take_left' (length_net16 _)] at part
  exact part.symm

/-- The header of a message whose length was set again to what it was. -/
theorem region_header (memory : Nat → UInt8) {bytes : Nat → UInt8} {header : Header}
    (kept : ∀ index, index < 20 → index < 2 ∨ 4 ≤ index →
      bytes index = overwrite memory 0 (encodeHeader header) index)
    (length : region bytes 2 2 = net16 header.payloadLength) :
    region bytes 0 20 = encodeHeader header := by
  have whole := region_overwrite memory 0 (encodeHeader header)
  rw [length_encodeHeader] at whole
  refine (region_congr fun index above below => ?_).trans whole
  by_cases inLength : 2 ≤ index ∧ index < 4
  · exact eq_of_region_eq (length.trans (region_length memory header).symm) inLength.1 (by omega)
  · exact kept index (by omega) (by omega)

/-- **What serialising a message writes.** -/
theorem serializeMessage_written {digests : Digests} {memory : Nat → UInt8} {type : UInt16}
    {transactionId : { bytes : Bytes // bytes.length = 12 }} {values : List AttributeValue}
    {next : Nat} (done : serializeMessage digests memory (builtMessage type transactionId values) =
      .ok (out, next)) :
    next = 20 + blocks values ∧
      MessageWritten digests memory (builtMessage type transactionId values).header values out := by
  obtain ⟨ends, attributes⟩ := serializeAttributes_placed (Nat.le_refl 20) rfl done
  refine ⟨ends, ?_, ?_, ?_⟩
  · refine region_header memory attributes.kept ?_
    cases values with
    | nil =>
      rw [attributes.unchanged rfl]
      exact region_length memory _
    | cons value values =>
      rw [attributes.length (cons_ne_nil value values), Nat.add_sub_cancel_left]
      rfl
  · refine attributes.placed.congr_initial fun index above => ?_
    have behind : 0 + (encodeHeader (builtMessage type transactionId values).header).length ≤
        index := by
      rw [length_encodeHeader]
      omega
    exact overwrite_outside memory (.inr behind)
  · intro exact_ index mem
    rcases attributes.written exact_ index mem with inHeader | below
    · rcases mem_append.mp inHeader with here | none
      · rw [mem_range'_1, length_encodeHeader] at here
        omega
      · cases none
    · exact below

/-- A message that fits is serialised. -/
theorem serializeMessage_of_le (digests : Digests) (memory : Nat → UInt8) (type : UInt16)
    (transactionId : { bytes : Bytes // bytes.length = 12 }) {values : List AttributeValue}
    (small : blocks values ≤ 65535) :
    ∃ out next, serializeMessage digests memory (builtMessage type transactionId values) =
      .ok (out, next) :=
  serializeAttributes_of_le digests values _ (Nat.le_refl 20) (by simpa using small)

end Rstream.Stun
