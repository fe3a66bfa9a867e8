import Rstream.Stun.Serialize

/-!
# Parsing a message

Parsing a message checks its header and walks over its attributes; the values stay where they are in
the memory. The value of an attribute is parsed when it is asked for, from a memory that ends with
the value, and a message is checked against an integrity or a fingerprint within.
-/

namespace Rstream.Stun

open Library

/-! ## Values -/

section Source

variable (memory : Memory)

/-- `parse_value` of an object of a size. -/
def parseBytes (length offset : Nat) : Except Fault { bytes : Bytes // bytes.length = length } :=
  if offset > memory.size ∨ length > memory.size - offset then
    .error (.thrown "data has invalid size")
  else memory.read offset length

/-- The byte of a string of one byte. -/
def byteOf (bytes : { bytes : Bytes // bytes.length = 1 }) : UInt8 := bytes.val.headD 0

/-- `parse_value<stun_address_family>`. -/
def parseFamily (offset : Nat) : Except Fault StunAddressFamily := do
  let value ← parseBytes memory 1 offset
  if byteOf value = 0x01 then .ok .ipv4
  else if byteOf value = 0x02 then .ok .ipv6
  else .error (.thrown "unknown IP family")

/-- `parse_value<attribute_value_mapped_address_base>`. -/
def parseMappedAddress (offset : Nat) : Except Fault MappedAddress := do
  let padding ← parseBytes memory 1 offset
  let family ← parseFamily memory (offset + 1)
  let port ← parseBytes memory 2 (offset + 2)
  require (sizeSub memory.size (offset + 4) = family.addressLength) (.thrown "parsing error")
  let address ← memory.copy (offset + 4) family.addressLength
  .ok {
    padding := byteOf padding
    family
    port := ofNet16 port.val
    address := address.val
    fits := address.property }

/-- `parse_value<std::string>`. -/
def parseString (offset : Nat) : Except Fault Bytes := do
  let bytes ← memory.read offset (sizeSub memory.size offset)
  .ok bytes.val

/-- The loop of `parse_value<attribute_value_unknown_attributes>`. -/
def parseTypes : Nat → Nat → Except Fault (List UInt16 × Nat)
  | fuel, offset =>
    if offset < memory.size then
      match fuel with
      | 0 => .error .endless
      | fuel + 1 => do
          let type ← parseBytes memory 2 offset
          let types ← parseTypes fuel (offset + 2)
          .ok (ofHost16 type.val :: types.1, types.2)
    else .ok ([], offset)

/-- A value with an address, and the offset behind it. -/
def addressValue (make : MappedAddress → AttributeValue) (offset : Nat) :
    Except Fault (AttributeValue × Nat) := do
  let value ← parseMappedAddress memory offset
  .ok (make value, offset + 4 + value.address.length)

/-- A value with a text, and the offset behind it. -/
def textValue (make : Bytes → AttributeValue) (offset : Nat) :
    Except Fault (AttributeValue × Nat) := do
  let value ← parseString memory offset
  .ok (make value, offset + value.length)

/-- A value with an object of a size, and the offset behind it. -/
def objectValue (length : Nat) (make : Bytes → AttributeValue) (offset : Nat) :
    Except Fault (AttributeValue × Nat) := do
  let value ← parseBytes memory length offset
  .ok (make value.val, offset + length)

/-- `parse_value<attribute_value_xor_mapped_address>`. -/
def parseXorMappedAddress (offset : Nat) : Except Fault (AttributeValue × Nat) := do
  let mask ← memory.read 4 16
  addressValue memory (fun value => .xorMappedAddress (value.applyMask mask)) offset

/-- `parse_value<attribute_value_message_integrity::output_data>`. -/
def parseMessageIntegrity (offset : Nat) : Except Fault (AttributeValue × Nat) :=
  if offset + 20 > memory.size then .error (.thrown "data has invalid size")
  else do
    let serialized ← memory.read offset 20
    .ok (.messageIntegrity (.output serialized), offset + 20)

/-- `parse_value<attribute_value_error_code>`. -/
def parseErrorCode (offset : Nat) : Except Fault (AttributeValue × Nat) := do
  let padding ← parseBytes memory 2 offset
  require (ofHost16 padding.val = 0) (.thrown "invalid padding")
  let codeClass ← parseBytes memory 1 (offset + 2)
  require (byteOf codeClass &&& 0xF8 = 0) (.thrown "invalid error code class")
  let codeNumber ← parseBytes memory 1 (offset + 3)
  let reason ← parseString memory (offset + 4)
  .ok (.errorCode (byteOf codeClass &&& 0x07) (byteOf codeNumber) reason,
    offset + 4 + reason.length)

/-- `parse_value<attribute_value_unknown_attributes>`. -/
def parseUnknownAttributes (offset : Nat) : Except Fault (AttributeValue × Nat) :=
  if memory.size % 4 ≠ 0 then .error (.thrown "invalid attribute size")
  else do
    let types ← parseTypes memory memory.size offset
    .ok (.unknownAttributes types.1, types.2)

/-- `parse_value` of the class of a type. -/
def parseValue (offset : Nat) : AttributeType → Except Fault (AttributeValue × Nat)
  | .mappedAddress => addressValue memory .mappedAddress offset
  | .xorMappedAddress => parseXorMappedAddress memory offset
  | .username => textValue memory .username offset
  | .messageIntegrity => parseMessageIntegrity memory offset
  | .fingerprint => objectValue memory 4 (fun value => .fingerprint (some (ofNet32 value))) offset
  | .errorCode => parseErrorCode memory offset
  | .realm => textValue memory .realm offset
  | .nonce => textValue memory .nonce offset
  | .unknownAttributes => parseUnknownAttributes memory offset
  | .software => textValue memory .software offset
  | .alternateServer => addressValue memory .alternateServer offset
  | .priority => objectValue memory 4 (fun value => .priority (ofHost32 value)) offset
  | .useCandidate => .ok (.useCandidate, offset)
  | .iceControlled => objectValue memory 8 (fun value => .iceControlled (ofHost64 value)) offset
  | .iceControlling => objectValue memory 8 (fun value => .iceControlling (ofHost64 value)) offset
  | .changeRequest => objectValue memory 4 (fun value => .changeRequest (ofHost32 value)) offset
  | .responsePort => objectValue memory 2 (fun value => .responsePort (ofNet16 value)) offset
  | .padding => textValue memory .padding offset
  | .cacheTimeout => .ok (.cacheTimeout, offset)
  | .responseOrigin => addressValue memory .responseOrigin offset
  | .otherAddress => addressValue memory .otherAddress offset

/-! ## Messages -/

/-- `parse_value<header>` at the start of a memory. -/
def parseHeader : Except Fault Header := do
  require (20 ≤ memory.size) (.thrown "invalid header size")
  let first ← memory.read 0 1
  require (byteOf first &&& 0xC0 = 0) (.thrown "invalid start byte")
  let type ← parseBytes memory 2 0
  let payloadLength ← parseBytes memory 2 2
  let magic ← parseBytes memory 4 4
  require (ofNet32 magic.val = stunMagic) (.thrown "invalid magic")
  require (ofNet16 payloadLength.val &&& 3 = 0) (.thrown "invalid payload size")
  require (memory.size = 20 + (ofNet16 payloadLength.val).toNat) (.thrown "invalid message size")
  let transactionId ← memory.read 8 12
  let _ ← parseStunClass (ofNet16 type.val)
  let _ ← parseStunMethod (ofNet16 type.val)
  .ok {
    type := ofNet16 type.val
    payloadLength := ofNet16 payloadLength.val
    magic := ofNet32 magic.val
    transactionId }

/-- `parse_value<attribute_header>`. -/
def parseAttributeHeader (offset : Nat) : Except Fault AttributeHeader := do
  let size := sizeSub memory.size offset
  require (4 ≤ size) (.thrown "invalid attribute header size")
  let type ← parseBytes memory 2 offset
  let length ← parseBytes memory 2 (offset + 2)
  require (4 + (ofNet16 length.val).toNat ≤ size) (.thrown "invalid attribute size")
  .ok { type := ofNet16 type.val, length := ofNet16 length.val }

/-- The attribute with a header whose value is at an offset. -/
def attributeAt (header : AttributeHeader) (offset : Nat) : Attribute where
  header := header
  data := .serialized memory offset header.length.toNat

/-- `attribute::make`, with the offset behind the attribute. -/
def makeAttributeAt (offset : Nat) : Except Fault (Attribute × Nat) := do
  let header ← parseAttributeHeader memory offset
  .ok (attributeAt memory header (offset + 4), offset + 4 + aligned header.length.toNat)

/-- The loop of `parse_value<attributes>`. -/
def parseAttributesLoop : Nat → Nat → Except Fault (List Attribute × Nat)
  | fuel, offset =>
    if offset < memory.size then
      match fuel with
      | 0 => .error .endless
      | fuel + 1 => do
          let first ← makeAttributeAt memory offset
          let rest ← parseAttributesLoop fuel first.2
          .ok (first.1 :: rest.1, rest.2)
    else .ok ([], offset)

/-- `parse_value<attributes>` behind the header. -/
def parseAttributes : Except Fault (List Attribute) := do
  let attributes ← parseAttributesLoop memory memory.size 20
  require (attributes.2 = memory.size) (.thrown "invalid attribute size")
  .ok attributes.1

def parseMessage : Except Fault Message := do
  let header ← parseHeader memory
  let attributes ← parseAttributes memory
  .ok { header, attributes }

end Source

/-- `attribute::get<T>()` for the class of a type. -/
def Attribute.get (attr : Attribute) (type : AttributeType) : Except Fault AttributeValue :=
  match attr.data with
  | .undefined => .error (.thrown "attribute is undefined")
  | .serialized memory offset size => do
      let memory ← memory.resize (offset + size)
      let value ← parseValue memory offset type
      require (value.2 = memory.size) (.thrown "data has invalid size")
      .ok value.1
  | .parsed value => .ok value

def findAttribute (message : Message) (type : UInt16) : Option Attribute :=
  message.attributes.find? (·.header.type == type)

def getAttribute (message : Message) (type : UInt16) : Except Fault Attribute :=
  match findAttribute message type with
  | some attr => .ok attr
  | none => .error (.thrown "unknown_stun_attribute")

def Attribute.getDataSerialized (attr : Attribute) : Except Fault (Memory × Nat) :=
  match attr.data with
  | .serialized memory offset _ => .ok (memory, offset)
  | _ => .error (.thrown "attribute is not serialized")

/-! ## Checks -/

/-- `attribute_value_fingerprint::get_value`. -/
def fingerprintValue : AttributeValue → Except Fault UInt32
  | .fingerprint (some value) => .ok value
  | _ => .error (.thrown "attribute not processed")

def checkFingerprint (digests : Digests) (message : Message) : Except Fault PUnit.{1} := do
  let attr ← getAttribute message (getAttributeMsgType .fingerprint)
  let value ← attr.get .fingerprint
  let current ← fingerprintValue value
  let data ← attr.getDataSerialized
  let bytes ← data.1.read 0 (sizeSub data.2 4)
  require (current = digests.fingerprintCrc32 bytes.val) (.thrown "STUN fingerprint mismatch")

/-- `attribute_value_message_integrity::get_output_data`. -/
def outputData : AttributeValue → Except Fault Digest
  | .messageIntegrity (.output serialized) => .ok serialized
  | _ => .error (.thrown "expecting output data")

/-- The first integrity of some attributes, and their size up to its end. -/
def findIntegrity : List Attribute → Nat → Except Fault (Attribute × Nat)
  | [], _ => .error (.thrown "missing message-integrity attribute")
  | attr :: attributes, payloadLength => do
      let size ← byteSizeLongAttribute attr
      if attr.header.type = getAttributeMsgType .messageIntegrity then
        .ok (attr, payloadLength + size)
      else findIntegrity attributes (payloadLength + size)

/-- Bytes are written into the memory. -/
def Memory.write (memory : Memory) (offset : Nat) (bytes : Bytes) : Except Fault Memory :=
  if offset + bytes.length ≤ memory.string.length then
    .ok { memory with string := memory.string.take offset ++ bytes ++
      memory.string.drop (offset + bytes.length) }
  else .error .outside

def Memory.copyAll (memory : Memory) : Except Fault Memory := do
  let bytes ← memory.copy 0 memory.size
  .ok { string := bytes.val, size := memory.size, capacity := memory.size }

/-- The memory that a length is written into: a copy of one that is read-only. -/
def Memory.writable (memory : Memory) : Except Fault Memory :=
  if memory.isMutable then .ok memory else memory.copyAll

/-- The memory after the length was written back, unless it was written into a copy. -/
def Memory.restored (memory written : Memory) (length : UInt16) : Except Fault Memory :=
  if memory.isMutable then written.write 2 (net16 length) else .ok memory

/-- The digest of a message that ends with its integrity, and the memory afterwards. -/
def expectedIntegrity (digests : Digests) (memory : Memory) (offset payloadLength : Nat)
    (password : Bytes) : Except Fault (Digest × Memory) := do
  let old ← memory.read 2 2
  let target ← memory.writable
  let written ← target.write 2 (net16 (UInt16.ofNat payloadLength))
  let bytes ← written.read 0 (sizeSub offset 4)
  let restored ← memory.restored written (ofNet16 old.val)
  .ok (digests.hmacSha1 bytes.val password, restored)

/-- `message::check_message_integrity`: the memory afterwards, and whether the integrity is right. -/
def checkMessageIntegrity (digests : Digests) (message : Message) (password : Bytes) :
    Except Fault (Memory × Except Fault PUnit.{1}) := do
  let found ← findIntegrity message.attributes 0
  let value ← found.1.get .messageIntegrity
  let current ← outputData value
  let data ← found.1.getDataSerialized
  let narrowed ← data.1.resize (data.2 + 20)
  let expected ← expectedIntegrity digests narrowed data.2 found.2 password
  .ok (expected.2, require (current = expected.1) (.thrown "STUN message integrity mismatch"))

end Rstream.Stun
