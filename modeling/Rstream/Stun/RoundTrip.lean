import Rstream.Stun.ReadBack

/-!
# Sending what was received

A message of a known type is received as it was built, and sent again with the same bytes, exactly
when each of its values is repeatable (`message_roundTrips_iff`). A text or a list that is no
multiple of four bytes leaves a byte of its padding to the memory it is written to and writes one
byte too far; an error code is written without its two reserved bytes; a fingerprint that is given
is written in another byte order than it is read.
-/

namespace Rstream.Stun

open Library

/-! ## The round trip -/

/-- Values that are read back as they were added, and written again as they were. -/
def Repeatable : AttributeValue → Prop
  | .errorCode .. => False
  | .fingerprint none => False
  | .fingerprint (some value) => host32 value = net32 value
  | .messageIntegrity .undefined => False
  | value => byteSizeLongValue value % 4 = 0

/-- What is received for a value that was added: an integrity and a fingerprint without data are
computed when they are written. -/
def Restored : AttributeValue → AttributeValue → Prop
  | .messageIntegrity (.input _), got => ∃ digest, got = .messageIntegrity (.output digest)
  | .fingerprint none, got => ∃ checksum, got = .fingerprint (some checksum)
  | value, got => got = value

/-- The message of some values is written within its size, received with its header and its values,
and sent again with the same bytes, whatever the memories held before. -/
def RoundTrips (type : UInt16) (transactionId : { bytes : Bytes // bytes.length = 12 })
    (values : List AttributeValue) : Prop :=
  ∀ (digests : Digests) (memory other : Nat → UInt8) (spare : Nat) (isMutable : Bool),
    ∃ message out bytes parsed got again,
      buildMessage type transactionId values = .ok message ∧
      sendMessage digests memory type transactionId values = .ok (out, bytes) ∧
      (∀ index ∈ out.written, index < bytes.length) ∧
      parseMessage (received bytes spare isMutable) = .ok parsed ∧
      parsed.header = message.header ∧
      List.Forall₂ Restored values got ∧
      List.Forall₂ (fun attr value => attr.header.type = getAttributeMsgType value.kind ∧
        attr.get value.kind = .ok value) parsed.attributes got ∧
      sendMessage digests other type transactionId got = .ok (again, bytes)

/-! ## Values that are repeatable -/

section Repeatable

variable {digests : Digests} {bytes : Nat → UInt8} {start : Nat}

variable {value : AttributeValue}

theorem Repeatable.exact (repeatable : Repeatable value) : Exact value := by
  cases value with
  | errorCode => exact repeatable.elim
  | fingerprint checksum =>
    cases checksum with
    | none => exact repeatable.elim
    | some checksum => exact ⟨by rw [byteSizeLongValue], by rintro ⟨⟩⟩
  | messageIntegrity data =>
    cases data with
    | undefined => exact repeatable.elim
    | _ => exact ⟨repeatable, by rintro ⟨⟩⟩
  | _ => exact ⟨repeatable, by rintro ⟨⟩⟩

theorem Repeatable.gettable (repeatable : Repeatable value) : Gettable value := by
  cases value with
  | errorCode => exact repeatable.elim
  | messageIntegrity data => cases data <;> first | exact repeatable.elim | trivial
  | unknownAttributes types =>
    have multiple : 2 * types.length % 4 = 0 := repeatable
    show types.length % 2 = 0
    omega
  | _ => trivial

@[simp] theorem kind_readBack (value : AttributeValue) :
    (readBack digests bytes start value).kind = value.kind := by
  unfold readBack
  split <;> rfl

@[simp] theorem byteSizeLongValue_readBack (value : AttributeValue) :
    byteSizeLongValue (readBack digests bytes start value) = byteSizeLongValue value := by
  unfold readBack
  split <;> rfl

@[simp] theorem blockSize_readBack (value : AttributeValue) :
    blockSize (readBack digests bytes start value) = blockSize value := by
  rw [blockSize, byteSizeLongValue_readBack, blockSize]

theorem attributeHeaderBytes_readBack (value : AttributeValue) :
    attributeHeaderBytes (readBack digests bytes start value) = attributeHeaderBytes value := by
  rw [attributeHeaderBytes, kind_readBack, byteSizeLongValue_readBack, attributeHeaderBytes]

/-- A fingerprint whose bytes read the same in both orders. -/
theorem ofNet32_host32 {value : UInt32} (same : host32 value = net32 value) :
    ofNet32 (host32 value) = value := by
  rw [same, ofNet32_net32]

theorem Repeatable.restored (repeatable : Repeatable value) :
    Restored value (readBack digests bytes start value) := by
  cases value with
  | messageIntegrity data =>
    cases data with
    | undefined => exact repeatable.elim
    | input password => exact ⟨_, rfl⟩
    | output serialized => rfl
  | fingerprint value =>
    cases value with
    | none => exact repeatable.elim
    | some value =>
      show AttributeValue.fingerprint (some (ofNet32 (host32 value))) = .fingerprint (some value)
      rw [ofNet32_host32 repeatable]
  | _ => rfl

theorem encodedAt_readBack {other : Nat → UInt8} (late : 20 ≤ start)
    (same : ∀ index, index < start → other index = bytes index) (repeatable : Repeatable value) :
    encodedAt digests other start (readBack digests bytes start value) =
      encodedAt digests bytes start value := by
  have plain : encodedAt digests other start value = encodedAt digests bytes start value := by
    refine encodeValue_congr digests _ late (fun index below => ?_) value
    rw [withLength, withLength]
    by_cases inLength : 2 ≤ index ∧ index < 4
    · exact overwrite_inside _ _ inLength.1 (by rw [length_net16]; omega)
    · rw [overwrite_outside _ (by rw [length_net16]; omega),
        overwrite_outside _ (by rw [length_net16]; omega), same index below]
  cases value with
  | messageIntegrity data =>
    cases data with
    | undefined => exact repeatable.elim
    | input password => exact (encodedAt_input digests bytes start password).symm
    | output serialized => rfl
  | fingerprint value =>
    cases value with
    | none => exact repeatable.elim
    | some value =>
      show host32 (ofNet32 (host32 value)) = host32 value
      rw [ofNet32_host32 repeatable]
  | _ => exact plain

end Repeatable

/-! ## Messages of repeatable values -/

/-- The values that are read back, in their order. -/
def readBacks (digests : Digests) (bytes : Nat → UInt8) : Nat → List AttributeValue →
    List AttributeValue
  | _, [] => []
  | start, value :: values =>
    readBack digests bytes start value :: readBacks digests bytes (start + blockSize value) values

section Messages

variable {digests : Digests} {bytes : Nat → UInt8} {start : Nat} {values : List AttributeValue}

theorem blocks_readBacks (digests : Digests) (bytes : Nat → UInt8) (start : Nat)
    (values : List AttributeValue) : blocks (readBacks digests bytes start values) = blocks values := by
  induction values generalizing start with
  | nil => rfl
  | cons value values ih => rw [readBacks, blocks_cons, blockSize_readBack, ih, blocks_cons]

theorem restored_readBacks (repeatable : ∀ value ∈ values, Repeatable value) :
    List.Forall₂ Restored values (readBacks digests bytes start values) := by
  induction values generalizing start with
  | nil => exact .nil
  | cons value values ih =>
    rw [List.forall_mem_cons] at repeatable
    exact .cons repeatable.1.restored (ih repeatable.2)

/-- Each value is asked for where it was placed. -/
theorem get_readBacks {memory : Memory} {initial : Nat → UInt8} {total : Nat}
    (holds : memory.string = region bytes 0 total) (room : total ≤ memory.capacity)
    (short : total < 2 ^ 64) (late : 20 ≤ start) (multiple : 4 ∣ start)
    (ends : start + blocks values = total) (small : blocks values ≤ 65535)
    (gettable : ∀ value ∈ values, Gettable value)
    (placed : Placed digests initial bytes start values) :
    List.Forall₂ (fun attr value => attr.header.type = getAttributeMsgType value.kind ∧
        attr.get value.kind = .ok value)
      (placedAttributes memory start values) (readBacks digests bytes start values) := by
  induction values generalizing start with
  | nil => exact .nil
  | cons value values ih =>
    rw [List.forall_mem_cons] at gettable
    rw [blocks_cons] at ends small
    have block : blockSize value = 4 + aligned (byteSizeLongValue value) := rfl
    have padded := le_aligned (byteSizeLongValue value)
    have more : 4 ∣ blockSize value := Nat.dvd_add (Nat.dvd_refl 4) (dvd_aligned _)
    have got := get_placed holds room short late multiple (by omega) (by omega)
      gettable.1 (placed.coded gettable.1.defined)
    refine .cons ⟨?_, ?_⟩ (ih (by omega) (Nat.dvd_add multiple more) (by omega) (by omega)
      gettable.2 placed.2.2.2)
    · rw [kind_readBack]
      rfl
    · rw [kind_readBack]
      exact got

theorem Placed.eq_of_readBacks {other initial initial' : Nat → UInt8} (late : 20 ≤ start)
    (repeatable : ∀ value ∈ values, Repeatable value)
    (placed : Placed digests initial bytes start values)
    (again : Placed digests initial' other start (readBacks digests bytes start values))
    (same : ∀ index, index < start → other index = bytes index) :
    ∀ index, index < start + blocks values → other index = bytes index := by
  induction values generalizing start with
  | nil => exact same
  | cons value values ih =>
    rw [List.forall_mem_cons] at repeatable
    obtain ⟨header, coded, -, rest⟩ := placed
    obtain ⟨headerAgain, codedAgain, -, restAgain⟩ := again
    rw [attributeHeaderBytes_readBack] at headerAgain
    rw [encodedAt_readBack late same repeatable.1] at codedAgain
    rw [blockSize_readBack] at restAgain
    obtain ⟨multiple, defined⟩ := repeatable.1.exact
    have length : (encodedAt digests bytes start value).length = byteSizeLongValue value :=
      length_encodeValue digests _ _ defined
    have full : blockSize value = 4 + byteSizeLongValue value := by
      rw [blockSize, aligned]
      omega
    have upTo : ∀ index, index < start + blockSize value → other index = bytes index := by
      intro index below
      by_cases before : index < start
      · exact same index before
      · by_cases inHeader : index < start + 4
        · exact eq_of_region_eq (headerAgain.trans header.symm) (by omega) inHeader
        · exact eq_of_region_eq (codedAgain.trans coded.symm) (by omega) (by omega)
    rw [blocks_cons, ← Nat.add_assoc]
    exact ih (by omega) repeatable.2 rest restAgain upTo

/-- **A message of a known type and of repeatable values makes the round trip.** -/
theorem roundTrips_of_repeatable {type : UInt16}
    {transactionId : { bytes : Bytes // bytes.length = 12 }} (small : blocks values ≤ 65535)
    (known : ∃ stunClass stunMethod, type = encodeMsgType stunClass stunMethod)
    (repeatable : ∀ value ∈ values, Repeatable value) : RoundTrips type transactionId values := by
  intro digests memory other spare isMutable
  obtain ⟨out, sent, written⟩ := sendMessage_of_le digests memory type transactionId small
  have smallAgain : blocks (readBacks digests out.bytes 20 values) ≤ 65535 := by
    rw [blocks_readBacks]
    exact small
  obtain ⟨again, sentAgain, writtenAgain⟩ :=
    sendMessage_of_le digests other type transactionId smallAgain
  have parsed := parseMessage_written written known rfl
    (toNat_payloadLength type transactionId small) spare isMutable
  have holds : (received (region out.bytes 0 (20 + blocks values)) spare isMutable).string =
      region out.bytes 0 (20 + blocks values) := rfl
  have room : 20 + blocks values ≤
      (received (region out.bytes 0 (20 + blocks values)) spare isMutable).capacity := by
    rw [received, length_region]
    exact Nat.le_add_right ..
  refine ⟨_, out, _, _, readBacks digests out.bytes 20 values, again, buildMessage_of_le small,
    sent, ?_, parsed, rfl, restored_readBacks repeatable, ?_, ?_⟩
  · rw [length_region]
    exact written.written fun value mem => (repeatable value mem).exact
  · exact get_readBacks holds room (by omega) (Nat.le_refl 20) (by decide) rfl small
      (fun value mem => (repeatable value mem).gettable) written.placed
  · have header : region again.bytes 0 20 = region out.bytes 0 20 := by
      rw [written.header, writtenAgain.header, builtMessage, blocks_readBacks, builtMessage]
    have same : region again.bytes 0 (20 + blocks values) = region out.bytes 0 (20 + blocks values) :=
      region_congr fun index _ below =>
        Placed.eq_of_readBacks (Nat.le_refl 20) repeatable written.placed writtenAgain.placed
          (fun index below => eq_of_region_eq header (Nat.zero_le index) (by omega)) index (by omega)
    rw [sentAgain, blocks_readBacks, same]

end Messages

/-! ## Messages with other values -/

/-- Digests that are all zero. -/
def zeroDigests : Digests where
  hmacSha1 _ _ := ⟨List.replicate 20 0, List.length_replicate ..⟩
  crc32 _ := 0

theorem Restored.kind_eq {value got : AttributeValue} (restored : Restored value got) :
    got.kind = value.kind := by
  unfold Restored at restored
  split at restored
  · obtain ⟨digest, rfl⟩ := restored
    rfl
  · obtain ⟨checksum, rfl⟩ := restored
    rfl
  · rw [restored]

theorem Restored.blockSize_eq {value got : AttributeValue} (restored : Restored value got) :
    blockSize got = blockSize value := by
  unfold Restored at restored
  split at restored
  · obtain ⟨digest, rfl⟩ := restored
    rfl
  · obtain ⟨checksum, rfl⟩ := restored
    rfl
  · rw [restored]

section Others

variable {digests : Digests} {out again : Nat → UInt8} {start total : Nat}

/-- The first byte of a padding is that of the memory before, so two memories tell it apart. -/
theorem multiple_of_placed {value : AttributeValue} {values others : List AttributeValue}
    (defined : value ≠ .messageIntegrity .undefined)
    (placed : Placed digests (fun _ => 0) out start (value :: values))
    (placedAgain : Placed digests (fun _ => 1) again start (value :: others))
    (inside : start + blockSize value ≤ total)
    (same : ∀ index, index < total → again index = out index) :
    byteSizeLongValue value % 4 = 0 := by
  by_contra notMultiple
  obtain ⟨-, -, padding, -⟩ := placed
  obtain ⟨-, -, paddingAgain, -⟩ := placedAgain
  have length : (encodedAt digests out start value).length = byteSizeLongValue value :=
    length_encodeValue digests _ _ defined
  have lengthAgain : (encodedAt digests again start value).length = byteSizeLongValue value :=
    length_encodeValue digests _ _ defined
  have room : start + 4 + byteSizeLongValue value < start + blockSize value := by
    rw [blockSize, aligned]
    omega
  rw [length] at padding
  rw [lengthAgain] at paddingAgain
  have differs := same (start + 4 + byteSizeLongValue value) (by omega)
  rw [padding room, paddingAgain room] at differs
  exact absurd (show (1 : UInt8) = 0 from differs) (by decide)

theorem repeatable_of_placed {memory : Memory} (holds : memory.string = region out 0 total)
    (room : total ≤ memory.capacity) (short : total < 2 ^ 64) (late : 20 ≤ start)
    (multiple : 4 ∣ start) {value got : AttributeValue} {values gots : List AttributeValue}
    (small : byteSizeLongValue value ≤ 65535) (inside : start + blockSize value ≤ total)
    (placed : Placed zeroDigests (fun _ => 0) out start (value :: values))
    (placedAgain : Placed zeroDigests (fun _ => 1) again start (got :: gots))
    (same : ∀ index, index < total → again index = out index) (restored : Restored value got)
    (found : (attributeAt memory (valueHeader value) (start + 4)).get value.kind = .ok got) :
    Repeatable value := by
  have block : blockSize value = 4 + aligned (byteSizeLongValue value) := rfl
  have padded := le_aligned (byteSizeLongValue value)
  have read (gettable : Gettable value) : readBack zeroDigests out start value = got := by
    have asked := get_placed holds room short late multiple small (by omega) gettable
      (placed.coded gettable.defined)
    exact Except.ok.inj (asked.symm.trans found)
  cases value with
  | errorCode codeClass codeNumber reason =>
    obtain rfl : got = .errorCode codeClass codeNumber reason := restored
    exact (errorCode_not_restored short small room (by omega) found).elim
  | messageIntegrity data =>
    cases data with
    | undefined =>
      obtain rfl : got = .messageIntegrity .undefined := restored
      have stored : ∀ value, (attributeAt memory (valueHeader (.messageIntegrity .undefined))
          (start + 4)).data ≠ .parsed value := by
        intro value same
        rw [attributeAt] at same
        cases same
      exact (undefined_not_restored stored found).elim
    | input password | output serialized => exact (show 20 % 4 = 0 from rfl)
  | fingerprint value =>
    have asked := read trivial
    cases value with
    | none =>
      -- The checksum is written in network order and, once it is given, in that of the host.
      have checksum : encodedAt zeroDigests out start (.fingerprint none) =
          net32 0x5354554E := by
        show net32 (0 ^^^ 0x5354554E) = _
        rw [UInt32.zero_xor]
      rw [readBack, checksum, ofNet32_net32] at asked
      have first := placed.coded (fun same => nomatch same)
      rw [← asked] at placedAgain
      have second := placedAgain.coded (fun same => nomatch same)
      have both : region again (start + 4) 4 = region out (start + 4) 4 :=
        region_congr fun index _ below => same index (by
          rw [blockSize_fingerprint] at inside
          omega)
      have differs : host32 0x5354554E = net32 0x5354554E :=
        second.symm.trans (both.trans (first.trans checksum))
      exact absurd differs (by decide)
    | some value =>
      obtain rfl : got = .fingerprint (some value) := restored
      have back : ofNet32 (host32 value) = value :=
        Option.some.inj (AttributeValue.fingerprint.inj asked)
      show host32 value = net32 value
      have spelled := net32_ofNet32 (length_host32 value)
      rw [back] at spelled
      exact spelled.symm
  | _ =>
    cases restored
    exact multiple_of_placed (fun same => nomatch same) placed placedAgain inside same

/-- The values of a message that makes the round trip are repeatable. -/
theorem repeatable_of_forall {memory : Memory} (holds : memory.string = region out 0 total)
    (room : total ≤ memory.capacity) (short : total < 2 ^ 64) (late : 20 ≤ start)
    (multiple : 4 ∣ start) {values gots : List AttributeValue}
    (ends : start + blocks values = total) (small : blocks values ≤ 65535)
    (placed : Placed zeroDigests (fun _ => 0) out start values)
    (placedAgain : Placed zeroDigests (fun _ => 1) again start gots)
    (same : ∀ index, index < total → again index = out index)
    (restored : List.Forall₂ Restored values gots)
    (found : List.Forall₂ (fun attr value => attr.header.type = getAttributeMsgType value.kind ∧
      attr.get value.kind = .ok value) (placedAttributes memory start values) gots) :
    ∀ value ∈ values, Repeatable value := by
  induction restored generalizing start with
  | nil => exact fun value mem => nomatch mem
  | @cons value got values gots restored _ ih =>
    rw [blocks_cons] at ends small
    have block : blockSize value = 4 + aligned (byteSizeLongValue value) := rfl
    have padded := le_aligned (byteSizeLongValue value)
    have more : 4 ∣ blockSize value := Nat.dvd_add (Nat.dvd_refl 4) (dvd_aligned _)
    rw [placedAttributes, List.forall₂_cons] at found
    obtain ⟨⟨-, asked⟩, found⟩ := found
    rw [restored.kind_eq] at asked
    have restAgain := placedAgain.2.2.2
    rw [restored.blockSize_eq] at restAgain
    rw [List.forall_mem_cons]
    exact ⟨repeatable_of_placed holds room short late multiple (by omega) (by omega) placed
        placedAgain same restored asked,
      ih (by omega) (Nat.dvd_add multiple more) (by omega) (by omega) placed.2.2.2 restAgain found⟩

end Others

/-- **A message makes the round trip exactly when its type is known and its values are
repeatable.** -/
theorem message_roundTrips_iff (type : UInt16)
    (transactionId : { bytes : Bytes // bytes.length = 12 }) (values : List AttributeValue)
    (small : blocks values ≤ 65535) :
    RoundTrips type transactionId values ↔
      (∃ stunClass stunMethod, type = encodeMsgType stunClass stunMethod) ∧
        ∀ value ∈ values, Repeatable value := by
  constructor
  · intro trips
    obtain ⟨message, out, bytes, parsed, got, again, built, sent, -, read, header, restored, found,
      sentAgain⟩ := trips zeroDigests (fun _ => 0) (fun _ => 1) 0 true
    obtain ⟨-, rfl, written⟩ := sendMessage_ok sent
    obtain ⟨-, bytes, writtenAgain⟩ := sendMessage_ok sentAgain
    obtain ⟨rfl, -⟩ := buildMessage_ok built
    have exactly : (received (region out.bytes 0 (20 + blocks values)) 0 true).size =
        (received (region out.bytes 0 (20 + blocks values)) 0 true).string.length := rfl
    obtain ⟨accepted, reads, -⟩ := (parseMessage_eq_ok exactly).mp read
    have known : ∃ stunClass stunMethod, type = encodeMsgType stunClass stunMethod := by
      obtain ⟨stunClass, stunMethod, same⟩ := accepted.known
      refine ⟨stunClass, stunMethod, ?_⟩
      rw [← same, ← reads.type, header]
      rfl
    refine ⟨known, ?_⟩
    have again_ := parseMessage_written written known rfl
      (toNat_payloadLength type transactionId small) 0 true
    rw [read, Except.ok.injEq] at again_
    rw [again_] at found
    have length := congrArg List.length bytes
    rw [length_region, length_region] at length
    have same : ∀ index, index < 20 + blocks values → again.bytes index = out.bytes index := by
      intro index below
      rw [← length] at bytes
      exact (eq_of_region_eq bytes (Nat.zero_le index) (by omega)).symm
    have holds : (received (region out.bytes 0 (20 + blocks values)) 0 true).string =
        region out.bytes 0 (20 + blocks values) := rfl
    have room : 20 + blocks values ≤
        (received (region out.bytes 0 (20 + blocks values)) 0 true).capacity := by
      rw [received, length_region]
      exact Nat.le_add_right ..
    exact repeatable_of_forall holds room (by omega) (Nat.le_refl 20) (by decide) rfl small
      written.placed writtenAgain.placed same restored found
  · rintro ⟨known, repeatable⟩
    exact roundTrips_of_repeatable small known repeatable

/-- An address of the network for documentation. -/
def exampleAddress : MappedAddress where
  padding := 0
  family := .ipv4
  port := 3478
  address := [192, 0, 2, 1]
  fits := rfl

/-- A response whose values fill their attributes. -/
theorem roundTrips_response :
    RoundTrips (encodeMsgType .responseSuccess .binding) ⟨List.replicate 12 0x07, rfl⟩
      [.xorMappedAddress exampleAddress, .software [0x61, 0x62, 0x63, 0x64],
        .messageIntegrity (.input [0x70, 0x77])] := by
  refine (message_roundTrips_iff _ _ _ (by decide)).mpr ⟨⟨.responseSuccess, .binding, rfl⟩, ?_⟩
  intro value mem
  simp only [List.mem_cons, List.not_mem_nil, or_false] at mem
  rcases mem with rfl | rfl | rfl
  · exact (show 8 % 4 = 0 from rfl)
  · exact (show 4 % 4 = 0 from rfl)
  · exact (show 20 % 4 = 0 from rfl)

/-- A software of one byte is written past the end of its message. -/
theorem oneByteSoftware_not_roundTrips :
    ¬∀ (stunClass : StunClass) (stunMethod : StunMethod)
      (transactionId : { bytes : Bytes // bytes.length = 12 }) (values : List AttributeValue),
      blocks values ≤ 65535 →
        RoundTrips (encodeMsgType stunClass stunMethod) transactionId values := by
  intro always
  obtain ⟨message, out, bytes, parsed, got, again, -, sent, within, -⟩ :=
    always .request .binding ⟨List.replicate 12 0x07, rfl⟩ [.software [0x61]] (by decide)
      zeroDigests (fun _ => 0) (fun _ => 0) 0 true
  have past : (sendMessage zeroDigests (fun _ => 0) (encodeMsgType .request .binding)
      ⟨List.replicate 12 0x07, rfl⟩ [.software [0x61]]).map (fun sent =>
        (sent.1.written.contains 28, sent.2.length)) = .ok (true, 28) := by decide
  rw [sent, Except.map, Except.ok.injEq, Prod.mk.injEq, List.contains_iff_mem] at past
  exact absurd (within 28 past.1) (by rw [past.2]; decide)

end Rstream.Stun
