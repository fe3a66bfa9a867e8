import Rstream.Library.Bytes
import Rstream.Library.Regions
import Rstream.Library.Results

/-!
# STUN messages

A message is a header and a list of attributes. An attribute is either a value of one of 21 kinds,
which was added by a builder, or a range of the memory that a message was parsed from; its value is
parsed when it is asked for.

Reading a memory outside of the string that it holds is a fault of its own, and differs from an
exception. The host is little-endian.
-/

namespace Rstream.Stun

open Library

abbrev Bytes := List UInt8

/-! ## Integers -/

/-- An integer in network order: `htons` or `htonl`, and the copy of the result. -/
def net16 (value : UInt16) : Bytes := bigEndian 2 value.toNat

def net32 (value : UInt32) : Bytes := bigEndian 4 value.toNat

/-- An integer in the order of the host. -/
def host16 (value : UInt16) : Bytes := (net16 value).reverse

def host32 (value : UInt32) : Bytes := (net32 value).reverse

def host64 (value : UInt64) : Bytes := (bigEndian 8 value.toNat).reverse

def ofNet16 (bytes : Bytes) : UInt16 := UInt16.ofNat (ofBigEndian bytes)

def ofNet32 (bytes : Bytes) : UInt32 := UInt32.ofNat (ofBigEndian bytes)

def ofHost16 (bytes : Bytes) : UInt16 := ofNet16 bytes.reverse

def ofHost32 (bytes : Bytes) : UInt32 := ofNet32 bytes.reverse

def ofHost64 (bytes : Bytes) : UInt64 := UInt64.ofNat (ofBigEndian bytes.reverse)

section Integers

@[simp] theorem length_net16 (value : UInt16) : (net16 value).length = 2 := length_bigEndian ..

@[simp] theorem length_net32 (value : UInt32) : (net32 value).length = 4 := length_bigEndian ..

@[simp] theorem length_host16 (value : UInt16) : (host16 value).length = 2 := by
  rw [host16, List.length_reverse, length_net16]

@[simp] theorem length_host32 (value : UInt32) : (host32 value).length = 4 := by
  rw [host32, List.length_reverse, length_net32]

@[simp] theorem length_host64 (value : UInt64) : (host64 value).length = 8 := by
  rw [host64, List.length_reverse, length_bigEndian]

@[simp] theorem ofNet16_net16 (value : UInt16) : ofNet16 (net16 value) = value := by
  rw [ofNet16, net16, ofBigEndian_bigEndian value.toNat_lt, UInt16.ofNat_toNat]

@[simp] theorem ofNet32_net32 (value : UInt32) : ofNet32 (net32 value) = value := by
  rw [ofNet32, net32, ofBigEndian_bigEndian value.toNat_lt, UInt32.ofNat_toNat]

@[simp] theorem ofHost16_host16 (value : UInt16) : ofHost16 (host16 value) = value := by
  rw [ofHost16, host16, List.reverse_reverse, ofNet16_net16]

@[simp] theorem ofHost32_host32 (value : UInt32) : ofHost32 (host32 value) = value := by
  rw [ofHost32, host32, List.reverse_reverse, ofNet32_net32]

@[simp] theorem ofHost64_host64 (value : UInt64) : ofHost64 (host64 value) = value := by
  rw [ofHost64, host64, List.reverse_reverse, ofBigEndian_bigEndian value.toNat_lt,
    UInt64.ofNat_toNat]

/-- Two bytes are those of the integer that they spell. -/
theorem net16_ofNet16 {bytes : Bytes} (two : bytes.length = 2) : net16 (ofNet16 bytes) = bytes := by
  have small := ofBigEndian_lt bytes
  have back := bigEndian_ofBigEndian bytes
  rw [two] at small back
  rw [net16, ofNet16, UInt16.toNat_ofNat_of_lt' small, back]

theorem net32_ofNet32 {bytes : Bytes} (four : bytes.length = 4) :
    net32 (ofNet32 bytes) = bytes := by
  have small := ofBigEndian_lt bytes
  have back := bigEndian_ofBigEndian bytes
  rw [four] at small back
  rw [net32, ofNet32, UInt32.toNat_ofNat_of_lt' small, back]

end Integers

/-! ## Attributes -/

inductive AttributeType where
  | mappedAddress | xorMappedAddress | username | messageIntegrity | fingerprint | errorCode
  | realm | nonce | unknownAttributes | software | alternateServer
  | priority | useCandidate | iceControlled | iceControlling
  | changeRequest | responsePort | padding | cacheTimeout | responseOrigin | otherAddress
  deriving DecidableEq, Repr

/-- `get_attribute_msg_type(attribute_type)`. -/
def getAttributeMsgType : AttributeType → UInt16
  | .mappedAddress => 0x0001
  | .xorMappedAddress => 0x0020
  | .username => 0x0006
  | .messageIntegrity => 0x0008
  | .fingerprint => 0x8028
  | .errorCode => 0x0009
  | .realm => 0x0014
  | .nonce => 0x0015
  | .unknownAttributes => 0x000A
  | .software => 0x8022
  | .alternateServer => 0x8023
  | .priority => 0x0024
  | .useCandidate => 0x0025
  | .iceControlled => 0x8029
  | .iceControlling => 0x802A
  | .changeRequest => 0x0003
  | .responsePort => 0x0027
  | .padding => 0x0026
  | .cacheTimeout => 0x8027
  | .responseOrigin => 0x802b
  | .otherAddress => 0x802c

/-- The types in their order, which is that of `m_attribute_properties`. -/
def attributeTypes : List AttributeType :=
  [.mappedAddress, .xorMappedAddress, .username, .messageIntegrity, .fingerprint, .errorCode,
    .realm, .nonce, .unknownAttributes, .software, .alternateServer, .priority, .useCandidate,
    .iceControlled, .iceControlling, .changeRequest, .responsePort, .padding, .cacheTimeout,
    .responseOrigin, .otherAddress]

/-- `get_attribute_type(msg_type)`. -/
def getAttributeType (type : UInt16) : Option AttributeType :=
  attributeTypes.find? (getAttributeMsgType · == type)

theorem getAttributeType_getAttributeMsgType (type : AttributeType) :
    getAttributeType (getAttributeMsgType type) = some type := by
  cases type <;> rfl

theorem getAttributeMsgType_injective : Function.Injective getAttributeMsgType := by
  intro first second same
  apply Option.some_injective
  rw [← getAttributeType_getAttributeMsgType first, same, getAttributeType_getAttributeMsgType]

inductive StunAddressFamily where
  | ipv4
  | ipv6
  deriving DecidableEq, Repr

/-- The bytes of an address of a family. -/
def StunAddressFamily.addressLength : StunAddressFamily → Nat
  | .ipv4 => 4
  | .ipv6 => 16

/-- `attribute_value_mapped_address_base`. The padding is a byte of its own. -/
structure MappedAddress where
  padding : UInt8
  family : StunAddressFamily
  port : UInt16
  address : Bytes
  fits : address.length = family.addressLength
  deriving DecidableEq

/-- What an HMAC-SHA1 is. -/
abbrev Digest := { bytes : Bytes // bytes.length = 20 }

/-- The data of an `attribute_value_message_integrity`. -/
inductive IntegrityData where
  | undefined
  | input (password : Bytes)
  | output (serialized : Digest)
  deriving DecidableEq

/-- The classes `attribute_value_*` with their data. -/
inductive AttributeValue where
  | mappedAddress (value : MappedAddress)
  | xorMappedAddress (value : MappedAddress)
  | username (value : Bytes)
  | messageIntegrity (data : IntegrityData)
  | fingerprint (value : Option UInt32)
  | errorCode (codeClass codeNumber : UInt8) (reason : Bytes)
  | realm (value : Bytes)
  | nonce (value : Bytes)
  | unknownAttributes (value : List UInt16)
  | software (value : Bytes)
  | alternateServer (value : MappedAddress)
  | priority (value : UInt32)
  | useCandidate
  | iceControlled (value : UInt64)
  | iceControlling (value : UInt64)
  | changeRequest (value : UInt32)
  | responsePort (value : UInt16)
  | padding (value : Bytes)
  | cacheTimeout
  | responseOrigin (value : MappedAddress)
  | otherAddress (value : MappedAddress)
  deriving DecidableEq

/-- `get_attribute_type<T>()` for the class of a value. -/
def AttributeValue.kind : AttributeValue → AttributeType
  | mappedAddress _ => .mappedAddress
  | xorMappedAddress _ => .xorMappedAddress
  | username _ => .username
  | messageIntegrity _ => .messageIntegrity
  | fingerprint _ => .fingerprint
  | errorCode .. => .errorCode
  | realm _ => .realm
  | nonce _ => .nonce
  | unknownAttributes _ => .unknownAttributes
  | software _ => .software
  | alternateServer _ => .alternateServer
  | priority _ => .priority
  | useCandidate => .useCandidate
  | iceControlled _ => .iceControlled
  | iceControlling _ => .iceControlling
  | changeRequest _ => .changeRequest
  | responsePort _ => .responsePort
  | padding _ => .padding
  | cacheTimeout => .cacheTimeout
  | responseOrigin _ => .responseOrigin
  | otherAddress _ => .otherAddress

structure AttributeHeader where
  type : UInt16
  length : UInt16
  deriving DecidableEq

/-! ## Memory -/

/-- How a computation ends without a result. -/
inductive Fault where
  /-- An exception, by its text. -/
  | thrown (what : String)
  /-- A read outside of the string. -/
  | outside
  /-- A loop that does not end. -/
  | endless
  deriving DecidableEq, Repr

/-- `rstream::core::memory` with the string that a message is parsed from. Copies of it share the
size, which a call of `resize` changes up to the capacity of what is below. -/
structure Memory where
  string : Bytes
  size : Nat
  capacity : Nat
  isMutable : Bool := true
  deriving DecidableEq

/-- The difference of two values of type `std::size_t`. -/
def sizeSub (first second : Nat) : Nat := (first + 2 ^ 64 - second) % 2 ^ 64

/-- Bytes at an offset of the memory. -/
def Memory.read (memory : Memory) (offset length : Nat) :
    Except Fault { bytes : Bytes // bytes.length = length } :=
  if within : offset + length ≤ memory.string.length then
    .ok ⟨(memory.string.drop offset).take length, by
      rw [List.length_take, List.length_drop]
      omega⟩
  else .error .outside

/-- The bytes at an offset of the memory. -/
def Memory.slice (memory : Memory) (offset length : Nat)
    (inside : offset + length ≤ memory.string.length) :
    { bytes : Bytes // bytes.length = length } :=
  ⟨(memory.string.drop offset).take length, by
    rw [List.length_take, List.length_drop]
    omega⟩

def Memory.copy (memory : Memory) (offset length : Nat) :
    Except Fault { bytes : Bytes // bytes.length = length } :=
  if offset > memory.size then .error (.thrown "invalid_size")
  else if length > memory.size - offset then .error (.thrown "invalid_size")
  else memory.read offset length

/-- `memory::resize(0, size)`. -/
def Memory.resize (memory : Memory) (size : Nat) : Except Fault Memory :=
  if size > memory.capacity then .error (.thrown "invalid_size")
  else .ok { memory with size }

/-! ## Messages -/

/-- `attribute::data_serialized` or `attribute::data_parsed`. -/
inductive AttributeData where
  | undefined
  | serialized (memory : Memory) (offset size : Nat)
  | parsed (value : AttributeValue)
  deriving DecidableEq

structure Attribute where
  header : AttributeHeader
  data : AttributeData
  deriving DecidableEq

structure Header where
  type : UInt16 := 0
  payloadLength : UInt16 := 0
  magic : UInt32 := 0
  transactionId : { bytes : Bytes // bytes.length = 12 } := ⟨List.replicate 12 0, rfl⟩
  deriving DecidableEq

structure Message where
  header : Header
  attributes : List Attribute
  deriving DecidableEq

inductive StunClass where
  | request
  | indication
  | responseSuccess
  | responseError
  deriving DecidableEq, Repr

inductive StunMethod where
  | binding
  deriving DecidableEq, Repr

def encodeMsgType (stunClass : StunClass) : StunMethod → UInt16
  | .binding => 0x0001 ||| match stunClass with
    | .request => 0x0000
    | .indication => 0x0010
    | .responseSuccess => 0x0100
    | .responseError => 0x0110

def parseStunClass (type : UInt16) : Except Fault StunClass :=
  if type &&& 0x0110 = 0x0000 then .ok .request
  else if type &&& 0x0110 = 0x0010 then .ok .indication
  else if type &&& 0x0110 = 0x0100 then .ok .responseSuccess
  else if type &&& 0x0110 = 0x0110 then .ok .responseError
  else .error (.thrown "unknown_stun_class")

def parseStunMethod (type : UInt16) : Except Fault StunMethod :=
  if type &&& 0xFEEF = 0x0001 then .ok .binding else .error (.thrown "unknown_stun_method")

def stunMagic : UInt32 := 0x2112A442

/-- The least multiple of four that is not smaller; the loops that align an attribute end there. -/
def aligned (size : Nat) : Nat := (size + 3) / 4 * 4

theorem le_aligned (size : Nat) : size ≤ aligned size := by
  rw [aligned]
  omega

theorem aligned_lt (size : Nat) : aligned size < size + 4 := by
  rw [aligned]
  omega

theorem dvd_aligned (size : Nat) : 4 ∣ aligned size := Nat.dvd_mul_left 4 _

def checkedLength (size : Nat) (previous : UInt16) : Except Fault UInt16 :=
  if size > 65535 - previous.toNat then .error (.thrown "STUN length exceeds its 16-bit field")
  else .ok (UInt16.ofNat (size + previous.toNat))

theorem checkedLength_ok {size : Nat} {previous length : UInt16}
    (checked : checkedLength size previous = .ok length) :
    length.toNat = previous.toNat + size := by
  rw [checkedLength] at checked
  split at checked
  · cases checked
  · rename_i small
    have bound := previous.toNat_lt
    cases checked
    rw [UInt16.toNat_ofNat_of_lt' (show _ < 65536 by omega), Nat.add_comm]

theorem checkedLength_of_le {size : Nat} {previous : UInt16}
    (small : previous.toNat + size ≤ 65535) :
    checkedLength size previous = .ok (UInt16.ofNat (size + previous.toNat)) := by
  rw [checkedLength, if_neg (by omega)]

/-- What HMAC-SHA1 and CRC-32 compute. -/
structure Digests where
  hmacSha1 : Bytes → Bytes → Digest
  crc32 : Bytes → UInt32

/-- `attribute_value_fingerprint::crc32`. -/
def Digests.fingerprintCrc32 (digests : Digests) (bytes : Bytes) : UInt32 :=
  digests.crc32 bytes ^^^ 0x5354554E

end Rstream.Stun
