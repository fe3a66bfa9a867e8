import Rstream.Stun.ReadBack

/-!
# Integrity and fingerprint

The sender computes the integrity of a message while the length in the header is that of the message
up to the end of the integrity; the receiver writes the same length into the memory, computes the
integrity of the same bytes, and writes the length back. The fingerprint covers the message with its
last length, so it has to be the last attribute. The receiver looks for the first integrity and the
first fingerprint of a message (`checks_pass`).
-/

namespace Rstream.Stun

open Library List Nat

/-! ## Writing into the memory of a message -/

section Write

variable {memory : Memory}

variable {offset : Nat} {data : Bytes}

theorem write_region {bytes : Nat → UInt8} {total : Nat}
    (holds : memory.string = region bytes 0 total) (room : offset + data.length ≤ total) :
    memory.write offset data =
      .ok { memory with string := region (overwrite bytes offset data) 0 total } := by
  obtain ⟨rest, rfl⟩ := Nat.exists_eq_add_of_le room
  have front : (region bytes 0 (offset + data.length + rest)).take offset =
      region (overwrite bytes offset data) 0 offset := by
    rw [add_assoc, region_add, take_left' (length_region ..)]
    exact (region_overwrite_of_disjoint bytes (.inl (by omega))).symm
  have back : (region bytes 0 (offset + data.length + rest)).drop (offset + data.length) =
      region (overwrite bytes offset data) (offset + data.length) rest := by
    rw [region_add, drop_left' (length_region ..), zero_add]
    exact (region_overwrite_of_disjoint bytes (.inr (by omega))).symm
  have written : region (overwrite bytes offset data) 0 (offset + data.length + rest) =
      region (overwrite bytes offset data) 0 offset ++ data ++
        region (overwrite bytes offset data) (offset + data.length) rest := by
    rw [region_add, region_add _ 0 offset, zero_add, zero_add, region_overwrite]
  rw [Memory.write, if_pos (by rw [holds, length_region]; omega), holds, front, back, written]

theorem write_back {written restored : Memory}
    (inside : offset + data.length ≤ memory.string.length)
    (wrote : memory.write offset data = .ok written)
    (back : written.write offset (memory.slice offset data.length inside).val = .ok restored) :
    restored = memory := by
  obtain ⟨-, rfl⟩ := write_ok wrote
  obtain ⟨-, rfl⟩ := write_ok back
  have same : (memory.slice offset data.length inside).val.length = data.length :=
    (memory.slice offset data.length inside).property
  have front : (memory.string.take offset).length = offset := by
    rw [length_take]
    omega
  have first : ((memory.string.take offset ++ data) ++
      memory.string.drop (offset + data.length)).take offset = memory.string.take offset := by
    rw [append_assoc, take_left' front]
  have last : ((memory.string.take offset ++ data) ++
      memory.string.drop (offset + data.length)).drop (offset + data.length) =
        memory.string.drop (offset + data.length) :=
    drop_left' (by rw [length_append, front])
  have whole : memory.string.take offset ++ (memory.string.drop offset).take data.length ++
      memory.string.drop (offset + data.length) = memory.string := by
    rw [← take_add, take_append_drop]
  simp only [same, first, last]
  exact congrArg (fun string => { memory with string }) whole

end Write

/-! ## The receiver -/

section Receive

variable {memory : Memory} {bytes : Nat → UInt8} {total : Nat}

/-- The length is written into the memory, or into a copy of as much of it as its size says. -/
theorem writable_region (holds : memory.string = region bytes 0 total)
    (within : memory.size ≤ total) :
    ∃ target count, memory.writable = .ok target ∧ target.string = region bytes 0 count ∧
      memory.size ≤ count := by
  have length : memory.string.length = total := by rw [holds, length_region]
  rw [Memory.writable]
  split
  · exact ⟨memory, total, rfl, holds, within⟩
  · have inside : 0 + memory.size ≤ memory.string.length := by omega
    have copied : memory.copy 0 memory.size = .ok (memory.slice 0 memory.size inside) := by
      rw [Memory.copy, if_neg (by omega), if_neg (by omega), read_of_le]
    refine ⟨{
      string := (memory.slice 0 memory.size inside).val
      size := memory.size
      capacity := memory.size }, memory.size, ?_, ?_, le_refl _⟩
    · rw [Memory.copyAll, copied, ok_bind]
    · show (memory.string.drop 0).take memory.size = _
      rw [holds, drop_take_region (by omega)]

variable {offset start : Nat} {before after : List AttributeValue} {password : Bytes}
  {header : Header}

theorem expectedIntegrity_region (digests : Digests) (holds : memory.string = region bytes 0 total)
    (short : total < 2 ^ 64) (behind : 24 ≤ offset) (room : offset ≤ memory.size)
    (within : memory.size ≤ total) (payloadLength : Nat) (password : Bytes) :
    ∃ after, expectedIntegrity digests memory offset payloadLength password =
      .ok (digests.hmacSha1 (region (withLength bytes payloadLength) 0 (offset - 4)) password,
        after) := by
  have length : memory.string.length = total := by rw [holds, length_region]
  have two := length_net16 (UInt16.ofNat payloadLength)
  obtain ⟨target, count, found, holdsTarget, roomTarget⟩ := writable_region holds within
  have wrote : target.write 2 (net16 (UInt16.ofNat payloadLength)) =
      .ok { target with string := region (withLength bytes payloadLength) 0 count } :=
    write_region holdsTarget (by omega)
  have restored : ∃ after, memory.restored
      { target with string := region (withLength bytes payloadLength) 0 count }
      (ofNet16 (memory.slice 2 2 (by omega)).val) = .ok after := by
    rw [Memory.restored]
    split
    · have room : 2 + (net16 (ofNet16 (memory.slice 2 2 (by omega)).val)).length ≤
          (region (withLength bytes payloadLength) 0 count).length := by
        rw [length_net16, length_region]
        omega
      exact ⟨_, if_pos room⟩
    · exact ⟨memory, rfl⟩
  obtain ⟨after, restored⟩ := restored
  refine ⟨after, ?_⟩
  have read : ({ target with string := region (withLength bytes payloadLength) 0 count } :
      Memory).read 0 (offset - 4) = .ok ⟨region (withLength bytes payloadLength) 0 (offset - 4),
        length_region ..⟩ := read_region rfl (by omega)
  rw [expectedIntegrity, read_of_le (by omega), ok_bind, found, ok_bind, wrote, ok_bind,
    sizeSub_of_lt (by omega) (by omega), read, ok_bind, restored, ok_bind]

theorem byteSizeLongAttribute_attributeAt (holds : memory.string = region bytes 0 total)
    (room : total ≤ memory.capacity) {value : AttributeValue}
    (small : byteSizeLongValue value ≤ 65535) (inside : offset + byteSizeLongValue value ≤ total) :
    byteSizeLongAttribute (attributeAt memory (valueHeader value) offset) =
      .ok (blockSize value) := by
  have length : memory.string.length = total := by rw [holds, length_region]
  show (memory.share offset (valueHeader value).length.toNat >>= _) = _
  rw [toNat_valueHeader small, Memory.share, if_neg (by omega), read_of_le (by omega), ok_bind,
    blockSize, add_comm]

theorem findIntegrity_placedAttributes (payloadLength : Nat)
    (holds : memory.string = region bytes 0 total) (room : total ≤ memory.capacity)
    (first : ∀ value ∈ before, value.kind ≠ .messageIntegrity)
    (ends : start + blocks (before ++ .messageIntegrity (.input password) :: after) = total)
    (small : blocks (before ++ .messageIntegrity (.input password) :: after) ≤ 65535) :
    findIntegrity (placedAttributes memory start
        (before ++ .messageIntegrity (.input password) :: after)) payloadLength =
      .ok (attributeAt memory (valueHeader (.messageIntegrity (.input password)))
        (start + blocks before + 4), payloadLength + blocks before + 24) := by
  induction before generalizing start payloadLength with
  | nil =>
    rw [nil_append, blocks_cons, blockSize_messageIntegrity] at ends
    have short : byteSizeLongValue (.messageIntegrity (.input password)) ≤ 65535 :=
      show 20 ≤ 65535 by decide
    have sized : byteSizeLongAttribute (attributeAt memory
        (valueHeader (.messageIntegrity (.input password))) (start + 4)) = .ok 24 :=
      (byteSizeLongAttribute_attributeAt holds room short
        (show start + 4 + 20 ≤ total by omega)).trans (by rw [blockSize_messageIntegrity])
    rw [nil_append, placedAttributes, findIntegrity, sized, ok_bind]
    exact if_pos rfl
  | cons value before ih =>
    rw [forall_mem_cons] at first
    rw [cons_append, blocks_cons] at ends small
    have block : blockSize value = 4 + aligned (byteSizeLongValue value) := rfl
    have padded := le_aligned (byteSizeLongValue value)
    have other : (valueHeader value).type ≠ getAttributeMsgType .messageIntegrity := fun same =>
      first.1 (getAttributeMsgType_injective same)
    rw [cons_append, placedAttributes, findIntegrity,
      byteSizeLongAttribute_attributeAt holds room (by omega) (by omega), ok_bind]
    refine (if_neg other).trans ((ih _ first.2 (by omega) (by omega)).trans ?_)
    rw [blocks_cons, add_assoc start, add_assoc payloadLength]

variable {digests : Digests} {initial : Nat → UInt8}

/-- **The integrity of a message is checked with the password that it was computed with.** -/
theorem checkMessageIntegrity_placed (holds : memory.string = region bytes 0 total)
    (room : total ≤ memory.capacity) (first : ∀ value ∈ before, value.kind ≠ .messageIntegrity)
    (ends : 20 + blocks (before ++ .messageIntegrity (.input password) :: after) = total)
    (small : blocks (before ++ .messageIntegrity (.input password) :: after) ≤ 65535)
    (placed : Placed digests initial bytes 20
      (before ++ .messageIntegrity (.input password) :: after)) :
    ∃ later, checkMessageIntegrity digests {
        header
        attributes := placedAttributes memory 20
          (before ++ .messageIntegrity (.input password) :: after) } password =
      .ok (later, .ok ⟨⟩) := by
  have found := findIntegrity_placedAttributes 0 holds room first ends small
  rw [blocks_append, blocks_cons, blockSize_messageIntegrity] at ends small
  have short : byteSizeLongValue (.messageIntegrity (.input password)) ≤ 65535 :=
    show 20 ≤ 65535 by decide
  have inside : 20 + blocks before + 4 + byteSizeLongValue (.messageIntegrity (.input password)) ≤
      total := by
    rw [byteSizeLongValue]
    omega
  have multiple : 4 ∣ 20 + blocks before := Nat.dvd_add (by decide) (dvd_blocks before)
  have got : (attributeAt memory (valueHeader (.messageIntegrity (.input password)))
      (20 + blocks before + 4)).get .messageIntegrity = _ :=
    get_placed holds room (by omega) (Nat.le_add_right ..) multiple short inside trivial
      (placed.behind.coded (fun same => by cases same))
  have narrowed : memory.resize (20 + blocks before + 4 + 20) =
      .ok { memory with size := 20 + blocks before + 4 + 20 } := if_neg (by omega)
  have holdsNarrowed : ({ memory with size := 20 + blocks before + 4 + 20 } : Memory).string =
      region bytes 0 total := holds
  obtain ⟨later, expected⟩ := expectedIntegrity_region digests holdsNarrowed (by omega)
    (show 24 ≤ 20 + blocks before + 4 by omega) (Nat.le_add_right ..) inside
    (0 + blocks before + 24) password
  have same : 0 + blocks before + 24 = 20 + blocks before + 4 := by omega
  refine ⟨later, ?_⟩
  rw [checkMessageIntegrity, found, ok_bind, got, ok_bind, readBack, outputData, ok_bind,
    getDataSerialized_attributeAt, ok_bind, narrowed, ok_bind, expected, ok_bind, same, Nat.add_sub_cancel, require, if_pos rfl]

theorem region_withLength {length : Nat} (written : region bytes 2 2 = net16 (UInt16.ofNat length))
    (count : Nat) : region (withLength bytes length) 0 count = region bytes 0 count := by
  have two := length_net16 (UInt16.ofNat length)
  have again : region (withLength bytes length) 2 2 = region bytes 2 2 := by
    have read := region_overwrite bytes 2 (net16 (UInt16.ofNat length))
    rw [two] at read
    exact read.trans written.symm
  refine region_congr fun index _ _ => ?_
  by_cases inLength : 2 ≤ index ∧ index < 4
  · exact eq_of_region_eq again inLength.1 (by omega)
  · exact overwrite_outside bytes (by omega)

/-- The checksum that was written last is asked for. -/
theorem get_fingerprint_placed (holds : memory.string = region bytes 0 total)
    (room : total ≤ memory.capacity) (short : total < 2 ^ 64) (late : 20 ≤ start)
    (multiple : 4 ∣ start) (ends : start + 8 = total)
    (written : region bytes 2 2 = net16 (UInt16.ofNat (total - 20)))
    (placed : Placed digests initial bytes start [.fingerprint none]) :
    (attributeAt memory (valueHeader (.fingerprint none)) (start + 4)).get .fingerprint =
      .ok (.fingerprint (some (digests.fingerprintCrc32 (region bytes 0 start)))) := by
  have encoded : encodedAt digests bytes start (.fingerprint none) =
      net32 (digests.fingerprintCrc32 (region bytes 0 start)) := by
    rw [encodedAt, blockSize_fingerprint, ends, encodeValue, Nat.add_sub_cancel,
      region_withLength written]
  have inside : start + 4 + byteSizeLongValue (.fingerprint none) ≤ total := by
    rw [byteSizeLongValue]
    omega
  have small : byteSizeLongValue (.fingerprint none) ≤ 65535 := show 4 ≤ 65535 by decide
  have got := get_placed holds room short late multiple small inside trivial
    (placed.coded fun same => by cases same)
  rw [readBack, encoded, ofNet32_net32] at got
  exact got

/-- **The fingerprint that was added last is checked.** -/
theorem checkFingerprint_placed (holds : memory.string = region bytes 0 total)
    (room : total ≤ memory.capacity) (short : total < 2 ^ 64) {values : List AttributeValue}
    (only : ∀ value ∈ values, value.kind ≠ .fingerprint)
    (ends : 20 + blocks (values ++ [.fingerprint none]) = total)
    (written : region bytes 2 2 = net16 (UInt16.ofNat (total - 20)))
    (placed : Placed digests initial bytes 20 (values ++ [.fingerprint none])) :
    checkFingerprint digests {
        header
        attributes := placedAttributes memory 20 (values ++ [.fingerprint none]) } = .ok ⟨⟩ := by
  rw [blocks_append, blocks_cons, blocks_nil, blockSize_fingerprint] at ends
  have found : getAttribute {
      header
      attributes := placedAttributes memory 20 (values ++ [.fingerprint none]) }
      (getAttributeMsgType .fingerprint) =
        .ok (attributeAt memory (valueHeader (.fingerprint none)) (20 + blocks values + 4)) := by
    have none_ : (placedAttributes memory 20 values).find?
        (·.header.type == getAttributeMsgType .fingerprint) = none := by
      rw [find?_eq_none]
      intro attr mem same
      obtain ⟨value, among, type⟩ := type_of_mem_placedAttributes mem
      rw [beq_iff_eq, type] at same
      exact only value among (getAttributeMsgType_injective same)
    have last : (placedAttributes memory 20 (values ++ [AttributeValue.fingerprint none])).find?
        (·.header.type == getAttributeMsgType .fingerprint) =
          some (attributeAt memory (valueHeader (.fingerprint none)) (20 + blocks values + 4)) := by
      rw [placedAttributes_append, find?_append, none_]
      rfl
    rw [getAttribute, findAttribute, last]
  have multiple : 4 ∣ 20 + blocks values := Nat.dvd_add (by decide) (dvd_blocks values)
  have got := get_fingerprint_placed holds room short (by omega) multiple (by omega) written
    placed.behind
  have read : memory.read 0 (20 + blocks values) =
      .ok ⟨region bytes 0 (20 + blocks values), length_region ..⟩ := read_region holds (by omega)
  have before : sizeSub (20 + blocks values + 4) 4 = 20 + blocks values := by
    rw [sizeSub_of_lt (by omega) (by omega), Nat.add_sub_cancel]
  rw [checkFingerprint, found, ok_bind, got, ok_bind, fingerprintValue, ok_bind,
    getDataSerialized_attributeAt, ok_bind, before, read, ok_bind, require, if_pos rfl]

end Receive

/-! ## The bytes of a checked message -/

theorem expectedIntegrity_string {digests : Digests} {memory : Memory} {offset payloadLength : Nat}
    {password : Bytes} {digest : Digest} {after : Memory}
    (done : expectedIntegrity digests memory offset payloadLength password =
      .ok (digest, after)) : after = memory := by
  obtain ⟨old, read, done⟩ := bind_eq_ok.mp done
  obtain ⟨target, writable, done⟩ := bind_eq_ok.mp done
  obtain ⟨written, wrote, done⟩ := bind_eq_ok.mp done
  obtain ⟨bytes, -, done⟩ := bind_eq_ok.mp done
  obtain ⟨restored, back, done⟩ := bind_eq_ok.mp done
  cases done
  rw [Memory.writable] at writable
  rw [Memory.restored] at back
  split at back
  · rename_i mutable
    rw [if_pos mutable] at writable
    cases writable
    have room := (write_ok wrote).1
    rw [length_net16] at room
    have inside : 2 + (net16 (UInt16.ofNat payloadLength)).length ≤ memory.string.length := by
      rw [length_net16]
      exact room
    have same : net16 (ofNet16 old.val) =
        (memory.slice 2 (net16 (UInt16.ofNat payloadLength)).length inside).val := by
      rw [read_of_le room] at read
      cases read
      rw [net16_ofNet16 (memory.slice 2 2 room).property]
      show (memory.string.drop 2).take 2 = (memory.string.drop 2).take _
      rw [length_net16]
    rw [same] at back
    exact write_back inside wrote back
  · cases back
    rfl

/-- **The check of an integrity leaves the bytes of a message as they were**, whatever it finds. -/
theorem checkMessageIntegrity_string {digests : Digests} {message : Message} {password : Bytes}
    {string : Bytes} {after : Memory} {verdict : Except Fault PUnit.{1}}
    (inside : ∀ attr ∈ message.attributes, attr.Inside string)
    (done : checkMessageIntegrity digests message password = .ok (after, verdict)) :
    after.string = string := by
  obtain ⟨found, integrity, done⟩ := bind_eq_ok.mp done
  obtain ⟨value, -, done⟩ := bind_eq_ok.mp done
  obtain ⟨current, -, done⟩ := bind_eq_ok.mp done
  obtain ⟨data, serialized, done⟩ := bind_eq_ok.mp done
  obtain ⟨narrowed, resized, done⟩ := bind_eq_ok.mp done
  obtain ⟨expected, computed, done⟩ := bind_eq_ok.mp done
  cases done
  have within := inside found.1 (mem_of_findIntegrity integrity)
  obtain ⟨holds, -⟩ := within.dataSerialized serialized
  rw [expectedIntegrity_string computed, resize_ok resized]
  exact holds

/-! ## Sender and receiver -/

/-- Values with an integrity that `add_message_integrity` adds among them, and a fingerprint that
`add_fingerprint` adds last. -/
def signedValues (before after : List AttributeValue) (password : Bytes) (withFingerprint : Bool) :
    List AttributeValue :=
  before ++ .messageIntegrity (.input password) ::
    (after ++ if withFingerprint then [.fingerprint none] else [])

/-- The message of the values is sent, and what is received passes the checks. -/
def ChecksPass (digests : Digests) (memory : Nat → UInt8) (type : UInt16)
    (transactionId : { bytes : Bytes // bytes.length = 12 }) (before after : List AttributeValue)
    (password : Bytes) (withFingerprint : Bool) (spare : Nat) (isMutable : Bool) : Prop :=
  ∃ out bytes parsed,
    sendMessage digests memory type transactionId
      (signedValues before after password withFingerprint) = .ok (out, bytes) ∧
    parseMessage (received bytes spare isMutable) = .ok parsed ∧
    (checkMessageIntegrity digests parsed password >>= (·.2)) = .ok ⟨⟩ ∧
    (withFingerprint = true → checkFingerprint digests parsed = .ok ⟨⟩)

/-- **What is received passes the checks, and they change no byte of it.** -/
theorem checks_pass (digests : Digests) (memory : Nat → UInt8) (stunClass : StunClass)
    (stunMethod : StunMethod) (transactionId : { bytes : Bytes // bytes.length = 12 })
    (before after : List AttributeValue) (password : Bytes) (withFingerprint : Bool)
    (first : ∀ value ∈ before, value.kind ≠ .messageIntegrity)
    (only : withFingerprint = true → ∀ value ∈ before ++ after, value.kind ≠ .fingerprint)
    (small : blocks (signedValues before after password withFingerprint) ≤ 65535)
    (spare : Nat) (isMutable : Bool) :
    ChecksPass digests memory (encodeMsgType stunClass stunMethod) transactionId before after
      password withFingerprint spare isMutable ∧
    ∀ string parsed, parseMessage (received string spare isMutable) = .ok parsed →
      ∀ size given later verdict,
        checkMessageIntegrity digests (parsed.resized size) given = .ok (later, verdict) →
          later.string = string := by
  constructor
  · obtain ⟨out, sent, written⟩ := sendMessage_of_le digests memory
      (encodeMsgType stunClass stunMethod) transactionId small
    have length := toNat_payloadLength (encodeMsgType stunClass stunMethod) transactionId small
    have parsed := parseMessage_written written ⟨stunClass, stunMethod, rfl⟩ rfl length spare
      isMutable
    have holds : (received (region out.bytes 0
        (20 + blocks (signedValues before after password withFingerprint))) spare isMutable).string =
          region out.bytes 0 (20 + blocks (signedValues before after password withFingerprint)) := rfl
    have room : 20 + blocks (signedValues before after password withFingerprint) ≤
        (received (region out.bytes 0
          (20 + blocks (signedValues before after password withFingerprint))) spare
            isMutable).capacity := by
      rw [received, length_region]
      exact Nat.le_add_right ..
    refine ⟨out, _, _, sent, parsed, ?_, fun last => ?_⟩
    · obtain ⟨later, checked⟩ := checkMessageIntegrity_placed holds room first rfl small
        written.placed
      rw [signedValues] at checked ⊢
      rw [checked, ok_bind]
    · have split : signedValues before after password withFingerprint =
          (before ++ .messageIntegrity (.input password) :: after) ++ [.fingerprint none] := by
        rw [signedValues, if_pos last, append_assoc, cons_append]
      have others : ∀ value ∈ before ++ .messageIntegrity (.input password) :: after,
          value.kind ≠ .fingerprint := by
        intro value mem
        rcases mem_append.mp mem with inBefore | behind
        · exact only last value (mem_append_left after inBefore)
        · rcases mem_cons.mp behind with rfl | inAfter
          · exact fun same => nomatch same
          · exact only last value (mem_append_right before inAfter)
      have inHeader := (headerWritten written.header).payloadLength
      have placed := written.placed
      rw [split] at placed small ⊢
      rw [split] at holds room
      refine checkFingerprint_placed holds room (by omega) others rfl ?_ placed
      rw [Nat.add_sub_cancel_left, inHeader, split]
      rfl
  · intro string parsed received_ size given later verdict done
    have inside := parseMessage_inside rfl received_
    refine checkMessageIntegrity_string (fun attr mem => ?_) done
    obtain ⟨original, among, rfl⟩ := mem_map.mp mem
    exact (inside original among).resized size

/-- Digests that tell keys apart: the key, filled up with zeros, and the length of what is covered. -/
def keyDigests : Digests where
  hmacSha1 _ key := ⟨(key ++ List.replicate 20 0).take 20, by
    rw [List.length_take, List.length_append, List.length_replicate]
    omega⟩
  crc32 bytes := UInt32.ofNat bytes.length

/-- A request with a software, an integrity and a fingerprint. -/
theorem checks_pass_softwareRequest :
    ChecksPass keyDigests (fun _ => 0xFF) (encodeMsgType .request .binding)
      ⟨replicate 12 0x07, rfl⟩ [.software [0x61, 0x62, 0x63]] [] [0x70, 0x77] true 0 false :=
  (checks_pass keyDigests (fun _ => 0xFF) .request .binding ⟨replicate 12 0x07, rfl⟩
    [.software [0x61, 0x62, 0x63]] [] [0x70, 0x77] true (by decide) (by decide) (by decide) 0
    false).1

/-- An integrity with another password that was added before is the one that is checked. -/
theorem twoIntegrities_not_checked :
    ¬∀ (digests : Digests) (memory : Nat → UInt8) (stunClass : StunClass) (stunMethod : StunMethod)
      (transactionId : { bytes : Bytes // bytes.length = 12 })
      (before after : List AttributeValue) (password : Bytes) (withFingerprint : Bool),
      blocks (signedValues before after password withFingerprint) ≤ 65535 →
      ∀ (spare : Nat) (isMutable : Bool),
        ChecksPass digests memory (encodeMsgType stunClass stunMethod) transactionId before after
          password withFingerprint spare isMutable := by
  intro always
  obtain ⟨out, bytes, parsed, sent, read, checked, -⟩ :=
    always keyDigests (fun _ => 0x00) .request .binding ⟨replicate 12 0x07, rfl⟩
      [.messageIntegrity (.input [0x61])] [] [0x62] false (by decide) 0 true
  have mismatch : (sendMessage keyDigests (fun _ => 0x00) (encodeMsgType .request .binding)
      ⟨replicate 12 0x07, rfl⟩ (signedValues [.messageIntegrity (.input [0x61])] [] [0x62]
        false) >>= fun sent => parseMessage (received sent.2 0 true) >>= fun parsed =>
          checkMessageIntegrity keyDigests parsed [0x62] >>= (·.2)) =
      .error (.thrown "STUN message integrity mismatch") := by decide +kernel
  rw [sent, ok_bind, read, ok_bind, checked] at mismatch
  cases mismatch

end Rstream.Stun
