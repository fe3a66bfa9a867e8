import Rstream.Stun.Exchange

/-!
# The values of a received message

The value of an attribute is parsed from the bytes that were written for it. Most kinds are read
back as they were added (`get_placed`); an integrity and a fingerprint are read back as the bytes
that were computed, a fingerprint with a given value in the other byte order than it was written,
and an error code never, since the two bytes in front of its class are not written
(`errorCode_not_restored`).
-/

namespace Rstream.Stun

open Library

/-! ## Parsing what was written -/

section Parse

variable {memory : Memory} {bytes : Nat → UInt8} {total offset : Nat}

theorem byteOf_singleton {bytes : { bytes : Bytes // bytes.length = 1 }} {byte : UInt8}
    (single : bytes.val = [byte]) : byteOf bytes = byte := by
  rw [byteOf, single, List.headD_cons]

theorem parseFamily_region (holds : memory.string = region bytes 0 total)
    (within : memory.size ≤ total) (room : offset + 1 ≤ memory.size) {family : StunAddressFamily}
    (coded : region bytes offset 1 = [familyByte family]) :
    parseFamily memory offset = .ok family := by
  have byte : byteOf ⟨region bytes offset 1, length_region ..⟩ = familyByte family :=
    byteOf_singleton coded
  rw [parseFamily, parseBytes_region holds within room, ok_bind, byte]
  cases family <;> rfl

/-- An address is parsed as it was written. -/
theorem parseMappedAddress_region (holds : memory.string = region bytes 0 total)
    (within : memory.size ≤ total) (short : total < 2 ^ 64) {value : MappedAddress}
    (size : memory.size = offset + (4 + value.address.length))
    (coded : region bytes offset (4 + value.address.length) = encodeMappedAddress value) :
    parseMappedAddress memory offset = .ok value := by
  have parts : region bytes offset (4 + value.address.length) =
      region bytes offset 1 ++ region bytes (offset + 1) 1 ++ region bytes (offset + 2) 2 ++
        region bytes (offset + 4) value.address.length := by
    rw [← region_add bytes offset 1 1, ← region_add bytes offset 2 2,
      ← region_add bytes offset 4 value.address.length]
  rw [parts, encodeMappedAddress] at coded
  obtain ⟨coded, address⟩ := List.append_inj coded (by simp)
  obtain ⟨coded, port⟩ := List.append_inj coded (by simp)
  obtain ⟨padding, family⟩ := List.append_inj
    (coded.trans (List.singleton_append (x := value.padding)).symm) (by simp)
  have fits := value.fits
  have left : sizeSub memory.size (offset + 4) = value.family.addressLength := by
    rw [sizeSub_of_lt (by omega) (by omega)]
    omega
  have copied : memory.copy (offset + 4) value.family.addressLength =
      .ok ⟨region bytes (offset + 4) value.family.addressLength, length_region ..⟩ := by
    rw [Memory.copy, if_neg (by omega), if_neg (by omega), read_region holds (by omega)]
  have first : byteOf ⟨region bytes offset 1, length_region ..⟩ = value.padding :=
    byteOf_singleton padding
  rw [parseMappedAddress, parseBytes_region holds within (by omega), ok_bind,
    parseFamily_region holds within (by omega) family, ok_bind,
    parseBytes_region holds within (by omega), ok_bind, left, require, if_pos rfl, ok_bind,
    copied, ok_bind, first]
  have samePort : ofNet16 (region bytes (offset + 2) 2) = value.port := by
    rw [port, ofNet16_net16]
  have sameAddress : region bytes (offset + 4) value.family.addressLength = value.address := by
    rw [← fits, address]
  obtain ⟨padding, family, port, address, fits⟩ := value
  rw [Except.ok.injEq, MappedAddress.mk.injEq]
  exact ⟨rfl, rfl, samePort, sameAddress⟩

/-- A mask that is applied twice. -/
theorem xorBytes_xorBytes {data mask : Bytes} (covered : data.length ≤ mask.length) :
    xorBytes (xorBytes data mask) mask = data := by
  induction data generalizing mask with
  | nil => rfl
  | cons byte data ih =>
    cases mask with
    | nil => cases covered
    | cons first mask =>
      rw [xorBytes, xorBytes, List.zipWith_cons_cons, List.zipWith_cons_cons, UInt8.xor_assoc,
        UInt8.xor_self, UInt8.xor_zero]
      exact congrArg (byte :: ·) (ih (Nat.le_of_succ_le_succ covered))

theorem applyMask_applyMask (mask : Mask) (value : MappedAddress) :
    (value.applyMask mask).applyMask mask = value := by
  have two : (xorBytes (net16 value.port) mask.val).length = 2 := by
    rw [xorBytes, List.length_zipWith, length_net16, mask.property]
    rfl
  have port : ofNet16 (xorBytes (net16 (ofNet16 (xorBytes (net16 value.port) mask.val)))
      mask.val) = value.port := by
    rw [net16_ofNet16 two, xorBytes_xorBytes (by rw [length_net16, mask.property]; decide),
      ofNet16_net16]
  have address : xorBytes (xorBytes value.address mask.val) mask.val = value.address :=
    xorBytes_xorBytes (by rw [value.fits, mask.property]; exact addressLength_le value.family)
  obtain ⟨padding, family, number, host, fits⟩ := value
  rw [MappedAddress.applyMask, MappedAddress.applyMask, MappedAddress.mk.injEq]
  exact ⟨rfl, rfl, port, address⟩

section

variable (holds : memory.string = region bytes 0 total)

include holds

section

variable (within : memory.size ≤ total)

include within

theorem parseString_region (short : total < 2 ^ 64) {length : Nat}
    (size : memory.size = offset + length) :
    parseString memory offset = .ok (region bytes offset length) := by
  have left : sizeSub memory.size offset = length := by
    rw [sizeSub_of_lt (by omega) (by omega), size, Nat.add_sub_cancel_left]
  rw [parseString, left, read_region holds (by omega), ok_bind]

/-- A list of types is parsed as it was written. -/
theorem parseTypes_region {types : List UInt16} {fuel : Nat}
    (enough : memory.size ≤ offset + fuel) (size : memory.size = offset + 2 * types.length)
    (coded : region bytes offset (2 * types.length) = types.flatMap host16) :
    parseTypes memory fuel offset = .ok (types, memory.size) := by
  induction types generalizing offset fuel with
  | nil =>
    have ended : ¬offset < memory.size := by
      rw [size]
      exact Nat.lt_irrefl _
    cases fuel <;> rw [parseTypes, if_neg ended, size] <;> rfl
  | cons type types ih =>
    rw [List.length_cons] at size
    have more : 2 * (type :: types).length = 2 + 2 * types.length := by
      rw [List.length_cons]
      omega
    rw [more, region_add, List.flatMap_cons] at coded
    obtain ⟨first, rest⟩ := List.append_inj coded (by simp)
    cases fuel with
    | zero => omega
    | succ fuel =>
      have next : parseTypes memory fuel (offset + 2) = .ok (types, memory.size) :=
        ih (by omega) (by omega) rest
      rw [parseTypes, if_pos (by omega), parseBytes_region holds within (by omega), ok_bind,
        next, ok_bind]
      show Except.ok (ofHost16 (region bytes offset 2) :: types, memory.size) = _
      rw [first, ofHost16_host16]

theorem addressValue_region (short : total < 2 ^ 64) {value : MappedAddress}
    (make : MappedAddress → AttributeValue)
    (size : memory.size = offset + (4 + value.address.length))
    (coded : region bytes offset (4 + value.address.length) = encodeMappedAddress value) :
    addressValue memory make offset = .ok (make value, memory.size) := by
  rw [addressValue, parseMappedAddress_region holds within short size coded, ok_bind, size,
    Nat.add_assoc]

theorem textValue_region (short : total < 2 ^ 64) {value : Bytes}
    (make : Bytes → AttributeValue) (size : memory.size = offset + value.length)
    (coded : region bytes offset value.length = value) :
    textValue memory make offset = .ok (make value, memory.size) := by
  rw [textValue, parseString_region holds within short size, ok_bind, coded, size]

theorem objectValue_region (make : Bytes → AttributeValue) {length : Nat} {data : Bytes}
    (size : memory.size = offset + length) (coded : region bytes offset length = data) :
    objectValue memory length make offset = .ok (make data, memory.size) := by
  rw [objectValue, parseBytes_region holds within size.ge, ok_bind, size, ← coded]

end

end

end Parse

/-! ## What is read back -/

/-- The value that is read back where another was added. -/
def readBack (digests : Digests) (bytes : Nat → UInt8) (start : Nat) :
    AttributeValue → AttributeValue
  | .messageIntegrity (.input password) =>
    .messageIntegrity (.output
      (digests.hmacSha1 (region (withLength bytes (start + 4)) 0 start) password))
  | .fingerprint value =>
    .fingerprint (some (ofNet32 (encodedAt digests bytes start (.fingerprint value))))
  | value => value

/-- Values that are read back. -/
def Gettable : AttributeValue → Prop
  | .errorCode .. => False
  | .messageIntegrity .undefined => False
  | .unknownAttributes types => types.length % 2 = 0
  | _ => True

theorem blockSize_messageIntegrity (data : IntegrityData) :
    blockSize (.messageIntegrity data) = 24 := by
  rw [blockSize, byteSizeLongValue, aligned]

theorem blockSize_fingerprint (value : Option UInt32) : blockSize (.fingerprint value) = 8 := by
  rw [blockSize, byteSizeLongValue, aligned]

theorem encodedAt_input (digests : Digests) (bytes : Nat → UInt8) (start : Nat)
    (password : Bytes) :
    encodedAt digests bytes start (.messageIntegrity (.input password)) =
      (digests.hmacSha1 (region (withLength bytes (start + 4)) 0 start) password).val := by
  have shorter : start + 24 - 20 = start + 4 := by omega
  rw [encodedAt, blockSize_messageIntegrity, shorter]
  rfl

theorem readMask_withLength (bytes : Nat → UInt8) (length : Nat) :
    readMask (withLength bytes length) = readMask bytes :=
  Subtype.ext (region_overwrite_of_disjoint bytes (.inr (by rw [length_net16])))

section Get

variable {digests : Digests} {memory : Memory} {bytes : Nat → UInt8} {total start : Nat}

variable {value : AttributeValue}

theorem parseValue_encoded (holds : memory.string = region bytes 0 total)
    (within : memory.size ≤ total) (short : total < 2 ^ 64) (late : 20 ≤ start)
    (multiple : 4 ∣ start) (gettable : Gettable value)
    (size : memory.size = start + 4 + byteSizeLongValue value)
    (coded : region bytes (start + 4) (byteSizeLongValue value) =
      encodedAt digests bytes start value) :
    parseValue memory (start + 4) value.kind =
      .ok (readBack digests bytes start value, memory.size) := by
  cases value with
  | mappedAddress value | alternateServer value | responseOrigin value | otherAddress value =>
    exact addressValue_region holds within short _ size coded
  | xorMappedAddress value =>
    have masked : (value.applyMask (readMask bytes)).address.length = value.address.length :=
      (value.applyMask (readMask bytes)).fits.trans value.fits.symm
    have mask : memory.read 4 16 = .ok (readMask bytes) := read_region holds (by omega)
    rw [encodedAt, encodeValue, readMask_withLength] at coded
    rw [AttributeValue.kind, parseValue, parseXorMappedAddress, mask, ok_bind,
      addressValue_region holds within short _ (by rw [masked]; exact size)
        (by rw [masked]; exact coded), applyMask_applyMask]
    rfl
  | username value | realm value | nonce value | software value | padding value =>
    exact textValue_region holds within short _ size coded
  | messageIntegrity data =>
    have room : ¬start + 4 + 20 > memory.size := by
      rw [size]
      exact Nat.lt_irrefl _
    cases data with
    | undefined => exact gettable.elim
    | input password =>
      rw [encodedAt_input] at coded
      have read : memory.read (start + 4) 20 = .ok
          (digests.hmacSha1 (region (withLength bytes (start + 4)) 0 start) password) :=
        (read_region holds (by omega)).trans (congrArg Except.ok (Subtype.ext coded))
      rw [AttributeValue.kind, parseValue, parseMessageIntegrity, if_neg room, read, ok_bind,
        size]
      rfl
    | output serialized =>
      have read : memory.read (start + 4) 20 = .ok serialized :=
        (read_region holds (by omega)).trans (congrArg Except.ok (Subtype.ext coded))
      rw [AttributeValue.kind, parseValue, parseMessageIntegrity, if_neg room, read, ok_bind,
        size]
      rfl
  | fingerprint value =>
    rw [AttributeValue.kind, parseValue]
    exact objectValue_region holds within _ size coded
  | errorCode codeClass codeNumber reason => exact gettable.elim
  | unknownAttributes types =>
    have whole : types.length % 2 = 0 := gettable
    have even : ¬memory.size % 4 ≠ 0 := by
      rw [size, byteSizeLongValue]
      omega
    have parsed : parseTypes memory memory.size (start + 4) = .ok (types, memory.size) :=
      parseTypes_region holds within (Nat.le_add_left ..) size coded
    rw [AttributeValue.kind, parseValue, parseUnknownAttributes, if_neg even, parsed, ok_bind]
    rfl
  | priority value | changeRequest value =>
    rw [AttributeValue.kind, parseValue]
    refine (objectValue_region holds within _ size coded).trans ?_
    rw [encodedAt, encodeValue, ofHost32_host32]
    rfl
  | iceControlled value | iceControlling value =>
    rw [AttributeValue.kind, parseValue]
    refine (objectValue_region holds within _ size coded).trans ?_
    rw [encodedAt, encodeValue, ofHost64_host64]
    rfl
  | responsePort value =>
    rw [AttributeValue.kind, parseValue]
    refine (objectValue_region holds within _ size coded).trans ?_
    rw [encodedAt, encodeValue, ofNet16_net16]
    rfl
  | useCandidate | cacheTimeout => rw [size]; rfl

theorem Gettable.defined (gettable : Gettable value) : value ≠ .messageIntegrity .undefined := by
  rintro rfl
  exact gettable

theorem Placed.coded {initial : Nat → UInt8} {values : List AttributeValue}
    (placed : Placed digests initial bytes start (value :: values))
    (defined : value ≠ .messageIntegrity .undefined) :
    region bytes (start + 4) (byteSizeLongValue value) = encodedAt digests bytes start value := by
  obtain ⟨-, coded, -⟩ := placed
  have length : (encodedAt digests bytes start value).length = byteSizeLongValue value :=
    length_encodeValue digests _ _ defined
  rw [← length, coded]

/-- **A value is asked for where it was placed.** -/
theorem get_placed (holds : memory.string = region bytes 0 total) (room : total ≤ memory.capacity)
    (short : total < 2 ^ 64) (late : 20 ≤ start) (multiple : 4 ∣ start)
    (small : byteSizeLongValue value ≤ 65535) (inside : start + 4 + byteSizeLongValue value ≤ total)
    (gettable : Gettable value) (coded : region bytes (start + 4) (byteSizeLongValue value) =
      encodedAt digests bytes start value) :
    (attributeAt memory (valueHeader value) (start + 4)).get value.kind =
      .ok (readBack digests bytes start value) := by
  have length := toNat_valueHeader small
  have holdsNarrowed : ({ memory with size := start + 4 + byteSizeLongValue value } :
      Memory).string = region bytes 0 total := holds
  rw [get_attributeAt (by omega), length,
    parseValue_encoded holdsNarrowed inside short late multiple gettable rfl coded, ok_bind,
    require, if_pos rfl, ok_bind]

theorem length_of_parseErrorCode {offset next : Nat} {codeClass codeNumber : UInt8} {reason : Bytes}
    (short : memory.size < 2 ^ 64)
    (parsed : parseErrorCode memory offset = .ok (.errorCode codeClass codeNumber reason, next)) :
    offset + 4 + reason.length = memory.size := by
  obtain ⟨padding, -, parsed⟩ := bind_eq_ok.mp parsed
  obtain ⟨_, -, parsed⟩ := bind_eq_ok.mp parsed
  obtain ⟨first, -, parsed⟩ := bind_eq_ok.mp parsed
  obtain ⟨_, -, parsed⟩ := bind_eq_ok.mp parsed
  obtain ⟨second, number, parsed⟩ := bind_eq_ok.mp parsed
  obtain ⟨text, read, parsed⟩ := bind_eq_ok.mp parsed
  obtain ⟨bytes, -, read⟩ := bind_eq_ok.mp read
  have within := le_of_parseBytes number
  have left := bytes.property.trans (sizeSub_of_lt within short)
  cases read
  cases parsed
  omega

/-- An error code is read back with a reason of another length. -/
theorem errorCode_not_restored (short : total < 2 ^ 64) {codeClass codeNumber : UInt8}
    {reason : Bytes} (small : byteSizeLongValue (.errorCode codeClass codeNumber reason) ≤ 65535)
    (room : total ≤ memory.capacity)
    (inside : start + 4 + byteSizeLongValue (.errorCode codeClass codeNumber reason) ≤ total) :
    (attributeAt memory (valueHeader (.errorCode codeClass codeNumber reason)) (start + 4)).get
        .errorCode ≠ .ok (.errorCode codeClass codeNumber reason) := by
  intro got
  have length := toNat_valueHeader small
  rw [get_attributeAt (by omega), length] at got
  obtain ⟨⟨value, next⟩, parsed, got⟩ := bind_eq_ok.mp got
  obtain ⟨_, -, got⟩ := bind_eq_ok.mp got
  obtain rfl := Except.ok.inj got
  have ends := length_of_parseErrorCode
    (show start + 4 + byteSizeLongValue (.errorCode codeClass codeNumber reason) < 2 ^ 64 by omega)
    parsed
  have size : start + 4 + 4 + reason.length = start + 4 + (2 + reason.length) := ends
  omega

/-- An integrity is never read back without data. -/
theorem undefined_not_restored {attr : Attribute} (data : ∀ value, attr.data ≠ .parsed value) :
    attr.get .messageIntegrity ≠ .ok (.messageIntegrity .undefined) := by
  intro got
  rw [Attribute.get] at got
  split at got
  · cases got
  · obtain ⟨memory, -, got⟩ := bind_eq_ok.mp got
    obtain ⟨value, parsed, got⟩ := bind_eq_ok.mp got
    obtain ⟨_, -, got⟩ := bind_eq_ok.mp got
    rw [parseValue, parseMessageIntegrity] at parsed
    split at parsed
    · cases parsed
    · obtain ⟨serialized, -, parsed⟩ := bind_eq_ok.mp parsed
      cases parsed
      cases got
  · rename_i value same
    exact data value same

end Get

end Rstream.Stun
