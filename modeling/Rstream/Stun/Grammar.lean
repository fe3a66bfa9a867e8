import Rstream.Stun.Parse

/-!
# The messages that are parsed

A byte string is a message exactly when its header is one and attributes tile the bytes behind the
header, each with its value padded to a multiple of four bytes (`parseMessage_grammar`). Parsing
ends for every byte string, and neither it nor what is asked of a parsed message reads outside of
the string: the value of an attribute lies inside, and each read is checked against the size of the
memory or against the place of the attribute.
-/

namespace Rstream.Stun

open Library List

universe u

/-! ## Computations that return or throw -/

/-- A computation that ends, and reads only inside of the string. -/
def Safe {α : Type u} (attempt : Except Fault α) : Prop :=
  ∀ fault, attempt = .error fault → ∃ what, fault = .thrown what

section Safe

variable {α β : Type u}

theorem Safe.ok (value : α) : Safe (.ok value : Except Fault α) := fun _ failed => nomatch failed

theorem Safe.thrown (what : String) : Safe (.error (.thrown what) : Except Fault α) := by
  intro fault failed
  cases failed
  exact ⟨what, rfl⟩

variable {first : Except Fault α} {condition : Prop}

theorem Safe.bind {next : α → Except Fault β} (safe : Safe first)
    (safeNext : ∀ value, first = .ok value → Safe (next value)) : Safe (first >>= next) := by
  cases first with
  | error fault =>
    obtain ⟨what, rfl⟩ := safe fault rfl
    exact Safe.thrown what
  | ok value => exact safeNext value rfl

theorem Safe.ite [Decidable condition] {second : Except Fault α} (safe : condition → Safe first)
    (safeElse : ¬condition → Safe second) : Safe (if condition then first else second) := by
  split
  · rename_i holds
    exact safe holds
  · rename_i fails
    exact safeElse fails

theorem Safe.require [Decidable condition] (what : String) :
    Safe (require condition (.thrown what) : Except Fault PUnit.{u + 1}) :=
  Safe.ite (fun _ => Safe.ok _) fun _ => Safe.thrown what

end Safe

/-! ## Reading the memory -/

variable {second start : Nat} {tiles : List Nat} {type : UInt16}

theorem sizeSub_le {first : Nat} (below : second ≤ first) :
    sizeSub first second ≤ first - second := by
  have shifted : first + 2 ^ 64 - second = first - second + 2 ^ 64 := by omega
  rw [sizeSub, shifted, Nat.add_mod_right]
  exact Nat.mod_le _ _

theorem sizeSub_of_lt {first : Nat} (below : second ≤ first) (small : first < 2 ^ 64) :
    sizeSub first second = first - second := by
  have shifted : first + 2 ^ 64 - second = first - second + 2 ^ 64 := by omega
  rw [sizeSub, shifted, Nat.add_mod_right, Nat.mod_eq_of_lt (by omega)]

section Read

variable {memory : Memory} {offset length : Nat}

theorem read_of_le (inside : offset + length ≤ memory.string.length) :
    memory.read offset length = .ok (memory.slice offset length inside) := dif_pos inside

theorem read_safe (inside : offset + length ≤ memory.string.length) :
    Safe (memory.read offset length) := by
  rw [read_of_le inside]
  exact Safe.ok _

theorem parseBytes_of_le (within : memory.size ≤ memory.string.length)
    (inside : offset + length ≤ memory.size) :
    parseBytes memory length offset = .ok (memory.slice offset length (inside.trans within)) := by
  rw [parseBytes, if_neg (by omega), read_of_le]

theorem le_of_parseBytes {bytes : { bytes : Bytes // bytes.length = length }}
    (parsed : parseBytes memory length offset = .ok bytes) : offset + length ≤ memory.size := by
  rw [parseBytes] at parsed
  split at parsed
  · cases parsed
  · omega

theorem parseBytes_safe (within : memory.size ≤ memory.string.length) :
    Safe (parseBytes memory length offset) :=
  Safe.ite (fun _ => Safe.thrown _) fun inside => read_safe (by omega)

theorem copy_safe (within : memory.size ≤ memory.string.length) :
    Safe (memory.copy offset length) :=
  Safe.ite (fun _ => Safe.thrown _) fun above =>
    Safe.ite (fun _ => Safe.thrown _) fun inside => read_safe (by omega)

theorem resize_safe : Safe (memory.resize length) :=
  Safe.ite (fun _ => Safe.thrown _) fun _ => Safe.ok _

theorem resize_ok {resized : Memory} (done : memory.resize length = .ok resized) :
    resized = { memory with size := length } := by
  rw [Memory.resize] at done
  split at done
  · cases done
  · exact (Except.ok.inj done).symm

theorem parseString_safe (within : memory.size ≤ memory.string.length)
    (inside : offset ≤ memory.size) : Safe (parseString memory offset) := by
  have short := sizeSub_le inside
  exact (read_safe (by omega)).bind fun _ _ => Safe.ok _

end Read

/-! ## Values -/

section Values

variable {memory : Memory} {offset : Nat}

section

variable (within : memory.size ≤ memory.string.length)

include within

theorem parseFamily_safe :
    Safe (parseFamily memory offset) :=
  (parseBytes_safe within).bind fun _ _ =>
    Safe.ite (fun _ => Safe.ok _) fun _ => Safe.ite (fun _ => Safe.ok _) fun _ => Safe.thrown _

theorem addressValue_safe
    (make : MappedAddress → AttributeValue) : Safe (addressValue memory make offset) := by
  refine Safe.bind ?_ fun _ _ => Safe.ok _
  refine (parseBytes_safe within).bind fun _ _ => ?_
  refine (parseFamily_safe within).bind fun _ _ => ?_
  refine (parseBytes_safe within).bind fun _ _ => ?_
  refine (Safe.require _).bind fun _ _ => ?_
  exact (copy_safe within).bind fun _ _ => Safe.ok _

theorem textValue_safe
    (inside : offset ≤ memory.size) (make : Bytes → AttributeValue) :
    Safe (textValue memory make offset) :=
  (parseString_safe within inside).bind fun _ _ => Safe.ok _

theorem objectValue_safe (length : Nat)
    (make : Bytes → AttributeValue) : Safe (objectValue memory length make offset) :=
  (parseBytes_safe within).bind fun _ _ => Safe.ok _

theorem parseErrorCode_safe :
    Safe (parseErrorCode memory offset) := by
  refine (parseBytes_safe within).bind fun _ _ => ?_
  refine (Safe.require _).bind fun _ _ => ?_
  refine (parseBytes_safe within).bind fun _ _ => ?_
  refine (Safe.require _).bind fun _ _ => ?_
  refine (parseBytes_safe within).bind fun number parsed => ?_
  exact (parseString_safe within (le_of_parseBytes parsed)).bind fun _ _ => Safe.ok _

theorem parseTypes_safe {fuel : Nat}
    (enough : memory.size ≤ offset + fuel) : Safe (parseTypes memory fuel offset) := by
  induction fuel generalizing offset with
  | zero =>
    rw [parseTypes, if_neg (by omega)]
    exact Safe.ok _
  | succ fuel ih =>
    rw [parseTypes]
    refine Safe.ite (fun _ => ?_) fun _ => Safe.ok _
    refine (parseBytes_safe within).bind fun _ _ => ?_
    exact (ih (by omega)).bind fun _ _ => Safe.ok _

theorem parseValue_safe
    (header : 20 ≤ memory.string.length) (inside : offset ≤ memory.size) (type : AttributeType) :
    Safe (parseValue memory offset type) := by
  cases type with
  | mappedAddress | alternateServer | responseOrigin | otherAddress =>
    exact addressValue_safe within _
  | xorMappedAddress => exact (read_safe header).bind fun _ _ => addressValue_safe within _
  | username | realm | nonce | software | padding => exact textValue_safe within inside _
  | messageIntegrity =>
    exact Safe.ite (fun _ => Safe.thrown _) fun _ =>
      (read_safe (by omega)).bind fun _ _ => Safe.ok _
  | fingerprint | priority | iceControlled | iceControlling | changeRequest | responsePort =>
    rw [parseValue]
    exact objectValue_safe within _ _
  | errorCode => exact parseErrorCode_safe within
  | unknownAttributes =>
    exact Safe.ite (fun _ => Safe.thrown _) fun _ =>
      (parseTypes_safe within (Nat.le_add_left ..)).bind fun _ _ => Safe.ok _
  | useCandidate | cacheTimeout => exact Safe.ok _

end

end Values

/-! ## The grammar -/

/-- An integer at an offset of a string. -/
def field16 (string : Bytes) (offset : Nat) : UInt16 := ofNet16 ((string.drop offset).take 2)

def field32 (string : Bytes) (offset : Nat) : UInt32 := ofNet32 ((string.drop offset).take 4)

/-- The string starts with a header. -/
structure AcceptsHeader (string : Bytes) : Prop where
  long : 20 ≤ string.length
  topBits : string.headD 0 &&& 0xC0 = 0
  magic : field32 string 4 = stunMagic
  multiple : 4 ∣ (field16 string 2).toNat
  length : (field16 string 2).toNat = string.length - 20
  known : ∃ stunClass stunMethod, field16 string 0 = encodeMsgType stunClass stunMethod

/-- The length of the value of an attribute that starts at an offset. -/
def tileLength (string : Bytes) (start : Nat) : Nat := (field16 string (start + 2)).toNat

/-- Attributes tile the string from a start to its end. -/
inductive Tiles (string : Bytes) : Nat → List Nat → Prop
  | done : Tiles string string.length []
  | tile {start : Nat} {tiles : List Nat}
      (inside : start + 4 + aligned (tileLength string start) ≤ string.length)
      (rest : Tiles string (start + 4 + aligned (tileLength string start)) tiles) :
      Tiles string start (start :: tiles)

/-- The string is a message. -/
structure Accepts (string : Bytes) : Prop extends AcceptsHeader string where
  tiled : ∃ tiles, Tiles string 20 tiles

theorem Tiles.le {string : Bytes} (tiled : Tiles string start tiles) : start ≤ string.length := by
  cases tiled with
  | done => exact Nat.le_refl _
  | tile inside _ => omega

/-- Each attribute of a tiling lies inside. -/
theorem Tiles.inside {string : Bytes} (tiled : Tiles string start tiles) {tile : Nat}
    (mem : tile ∈ tiles) : start ≤ tile ∧ tile + 4 + tileLength string tile ≤ string.length := by
  induction tiled with
  | done => cases mem
  | @tile start tiles inside rest ih =>
    have padded := le_aligned (tileLength string start)
    obtain rfl | later := mem_cons.mp mem
    · omega
    · have within := ih later
      omega

/-- What a parsed header holds. -/
structure HeaderOf (string : Bytes) (header : Header) : Prop where
  type : header.type = field16 string 0
  payloadLength : header.payloadLength = field16 string 2
  magic : header.magic = stunMagic
  transactionId : header.transactionId.val = (string.drop 8).take 12

/-- The attribute that starts at an offset of the memory. -/
def tileAttribute (memory : Memory) (start : Nat) : Attribute :=
  attributeAt memory
    { type := field16 memory.string start, length := field16 memory.string (start + 2) } (start + 4)

/-! ## Headers -/

theorem classBits (type : UInt16) :
    type &&& 0x0110 = 0x0000 ∨ type &&& 0x0110 = 0x0010 ∨ type &&& 0x0110 = 0x0100 ∨
      type &&& 0x0110 = 0x0110 := by
  have split : type.toBitVec &&& 0x0110#16 =
      (type.toBitVec &&& 0x0010#16) ||| (type.toBitVec &&& 0x0100#16) := by
    rw [← BitVec.and_or_distrib_left]
    rfl
  have low : type.toBitVec &&& 0x0010#16 = if type.toBitVec.getLsbD 4 then 0x0010#16 else 0#16 :=
    BitVec.and_twoPow type.toBitVec 4
  have high : type.toBitVec &&& 0x0100#16 = if type.toBitVec.getLsbD 8 then 0x0100#16 else 0#16 :=
    BitVec.and_twoPow type.toBitVec 8
  simp only [← UInt16.toBitVec_inj, UInt16.toBitVec_and]
  show type.toBitVec &&& 0x0110#16 = _ ∨ type.toBitVec &&& 0x0110#16 = _ ∨
    type.toBitVec &&& 0x0110#16 = _ ∨ type.toBitVec &&& 0x0110#16 = _
  rw [split, low, high]
  cases type.toBitVec.getLsbD 4 <;> cases type.toBitVec.getLsbD 8 <;> decide

/-- The types that are known. -/
theorem known_iff :
    (∃ stunClass stunMethod, type = encodeMsgType stunClass stunMethod) ↔
      type &&& 0xFEEF = 0x0001 := by
  constructor
  · rintro ⟨stunClass, stunMethod, rfl⟩
    cases stunMethod
    cases stunClass <;> rfl
  · intro method
    have split : type = (type &&& 0x0110) ||| (type &&& 0xFEEF) := by
      apply UInt16.toBitVec_inj.mp
      rw [UInt16.toBitVec_or, UInt16.toBitVec_and, UInt16.toBitVec_and,
        ← BitVec.and_or_distrib_left]
      exact BitVec.and_allOnes.symm
    rw [method] at split
    rcases classBits type with bits | bits | bits | bits <;> rw [bits] at split
    · exact ⟨.request, .binding, split⟩
    · exact ⟨.indication, .binding, split⟩
    · exact ⟨.responseSuccess, .binding, split⟩
    · exact ⟨.responseError, .binding, split⟩

theorem parseStunMethod_eq_ok {stunMethod : StunMethod} :
    parseStunMethod type = .ok stunMethod ↔ type &&& 0xFEEF = 0x0001 := by
  cases stunMethod
  rw [parseStunMethod]
  split
  · rename_i known
    exact iff_of_true rfl known
  · rename_i unknown
    exact iff_of_false (fun parsed => nomatch parsed) unknown

/-- Two bits are always those of a class. -/
theorem parseStunClass_ok (type : UInt16) : ∃ stunClass, parseStunClass type = .ok stunClass := by
  rcases classBits type with bits | bits | bits | bits <;> rw [parseStunClass, bits] <;>
    exact ⟨_, rfl⟩

section Header

variable {memory : Memory}

theorem and_three_eq_zero {length : UInt16} : length &&& 3 = 0 ↔ 4 ∣ length.toNat := by
  rw [← UInt16.toNat_inj, UInt16.toNat_and, Nat.dvd_iff_mod_eq_zero]
  exact iff_of_eq (congrArg (· = 0) (Nat.and_two_pow_sub_one_eq_mod length.toNat 2))

theorem parseHeader_safe (exactly : memory.size = memory.string.length) :
    Safe (parseHeader memory) := by
  have within : memory.size ≤ memory.string.length := exactly.le
  refine (Safe.require _).bind fun _ required => ?_
  have long := require_eq_ok.mp required
  refine (read_safe (by omega)).bind fun _ _ => ?_
  refine (Safe.require _).bind fun _ _ => ?_
  refine (parseBytes_safe within).bind fun _ _ => ?_
  refine (parseBytes_safe within).bind fun _ _ => ?_
  refine (parseBytes_safe within).bind fun _ _ => ?_
  refine (Safe.require _).bind fun _ _ => ?_
  refine (Safe.require _).bind fun _ _ => ?_
  refine (Safe.require _).bind fun _ _ => ?_
  refine (read_safe (by omega)).bind fun _ _ => ?_
  refine Safe.bind ?_ fun _ _ => Safe.bind ?_ fun _ _ => Safe.ok _
  · obtain ⟨stunClass, known⟩ := parseStunClass_ok _
    rw [known]
    exact Safe.ok _
  · exact Safe.ite (fun _ => Safe.ok _) fun _ => Safe.thrown _

theorem parseHeader_eq_ok (exactly : memory.size = memory.string.length) {header : Header} :
    parseHeader memory = .ok header ↔
      AcceptsHeader memory.string ∧ HeaderOf memory.string header := by
  have within : memory.size ≤ memory.string.length := exactly.le
  by_cases long : 20 ≤ memory.size
  case neg =>
    refine iff_of_false (fun parsed => ?_) fun accepted => long (exactly ▸ accepted.1.long)
    rw [parseHeader, require, if_neg long] at parsed
    cases parsed
  have first : byteOf (memory.slice 0 1 (by omega)) = memory.string.headD 0 := by
    show ((memory.string.drop 0).take 1).headD 0 = memory.string.headD 0
    rw [drop_zero]
    cases memory.string <;> rfl
  have run : parseHeader memory = (do
      require (memory.string.headD 0 &&& 0xC0 = 0) (.thrown "invalid start byte")
      require (field32 memory.string 4 = stunMagic) (.thrown "invalid magic")
      require (field16 memory.string 2 &&& 3 = 0) (.thrown "invalid payload size")
      require (memory.size = 20 + (field16 memory.string 2).toNat)
        (.thrown "invalid message size")
      let _ ← parseStunClass (field16 memory.string 0)
      let _ ← parseStunMethod (field16 memory.string 0)
      .ok {
        type := field16 memory.string 0
        payloadLength := field16 memory.string 2
        magic := field32 memory.string 4
        transactionId := memory.slice 8 12 (by omega) }) := by
    rw [parseHeader, require, if_pos long, ok_bind, read_of_le (by omega), ok_bind, first,
      parseBytes_of_le within (by omega), ok_bind, parseBytes_of_le within (by omega), ok_bind,
      parseBytes_of_le within (by omega), ok_bind, read_of_le (by omega), ok_bind]
    rfl
  rw [run]
  constructor
  · intro parsed
    obtain ⟨_, topBits, parsed⟩ := bind_eq_ok.mp parsed
    obtain ⟨_, magic, parsed⟩ := bind_eq_ok.mp parsed
    obtain ⟨_, multiple, parsed⟩ := bind_eq_ok.mp parsed
    obtain ⟨_, length, parsed⟩ := bind_eq_ok.mp parsed
    obtain ⟨_, -, parsed⟩ := bind_eq_ok.mp parsed
    obtain ⟨_, known, parsed⟩ := bind_eq_ok.mp parsed
    cases parsed
    have exact_ := require_eq_ok.mp length
    exact ⟨⟨exactly ▸ long, require_eq_ok.mp topBits, require_eq_ok.mp magic,
      and_three_eq_zero.mp (require_eq_ok.mp multiple), by omega,
      known_iff.mpr (parseStunMethod_eq_ok.mp known)⟩, rfl, rfl, require_eq_ok.mp magic, rfl⟩
  · rintro ⟨accepted, reads⟩
    obtain ⟨stunClass, classified⟩ := parseStunClass_ok (field16 memory.string 0)
    have method : parseStunMethod (field16 memory.string 0) = .ok .binding :=
      parseStunMethod_eq_ok.mpr (known_iff.mp accepted.known)
    have length := accepted.length
    simp only [require]
    rw [if_pos accepted.topBits, ok_bind, if_pos accepted.magic, ok_bind,
      if_pos (and_three_eq_zero.mpr accepted.multiple), ok_bind, if_pos (by omega), ok_bind,
      classified, ok_bind, method, ok_bind]
    obtain ⟨type, payloadLength, magic, transactionId⟩ := header
    obtain ⟨rfl, rfl, rfl, same⟩ := reads
    rw [accepted.magic, Except.ok.injEq, Header.mk.injEq]
    exact ⟨rfl, rfl, rfl, Subtype.ext same.symm⟩

end Header

/-! ## Attributes -/

section Attributes

variable {memory : Memory} {offset fuel : Nat}

variable {made : Attribute × Nat}

theorem lt_of_makeAttributeAt (done : makeAttributeAt memory offset = .ok made) :
    offset + 4 ≤ made.2 := by
  obtain ⟨header, -, done⟩ := bind_eq_ok.mp done
  cases done
  exact Nat.le_add_right _ _

theorem makeAttributeAt_safe (within : memory.size ≤ memory.string.length) :
    Safe (makeAttributeAt memory offset) := by
  refine Safe.bind ?_ fun _ _ => Safe.ok _
  refine (Safe.require _).bind fun _ _ => ?_
  refine (parseBytes_safe within).bind fun _ _ => ?_
  refine (parseBytes_safe within).bind fun _ _ => ?_
  exact (Safe.require _).bind fun _ _ => Safe.ok _

theorem makeAttributeAt_eq_ok (exactly : memory.size = memory.string.length)
    (small : memory.size < 2 ^ 64) (before : offset < memory.size) :
    makeAttributeAt memory offset = .ok made ↔
      offset + 4 + tileLength memory.string offset ≤ memory.size ∧
        made = (tileAttribute memory offset,
          offset + 4 + aligned (tileLength memory.string offset)) := by
  have within : memory.size ≤ memory.string.length := exactly.le
  have size := sizeSub_of_lt before.le small
  by_cases room : 4 ≤ memory.size - offset
  case neg =>
    refine iff_of_false (fun done => ?_) fun made => by omega
    obtain ⟨header, parsed, -⟩ := bind_eq_ok.mp done
    obtain ⟨_, required, -⟩ := bind_eq_ok.mp parsed
    rw [size] at required
    exact room (require_eq_ok.mp required)
  have run : makeAttributeAt memory offset = (do
      let _ ← require (4 + tileLength memory.string offset ≤ memory.size - offset)
        (.thrown "invalid attribute size")
      .ok (tileAttribute memory offset,
        offset + 4 + aligned (tileLength memory.string offset))) := by
    rw [makeAttributeAt, parseAttributeHeader, size, require, if_pos room, ok_bind,
      parseBytes_of_le within (by omega), ok_bind, parseBytes_of_le within (by omega), ok_bind]
    show (require (4 + tileLength memory.string offset ≤ memory.size - offset) _ >>= _) >>= _ = _
    rw [require]
    split <;> rfl
  rw [run, bind_eq_ok]
  constructor
  · rintro ⟨_, required, done⟩
    have inside := require_eq_ok.mp required
    exact ⟨by omega, (Except.ok.inj done).symm⟩
  · rintro ⟨inside, rfl⟩
    exact ⟨⟨⟩, require_eq_ok.mpr (by omega), rfl⟩

/-- The loop ends: each attribute takes four bytes or more. -/
theorem parseAttributesLoop_safe (within : memory.size ≤ memory.string.length)
    (enough : memory.size ≤ offset + fuel) : Safe (parseAttributesLoop memory fuel offset) := by
  induction fuel generalizing offset with
  | zero =>
    rw [parseAttributesLoop, if_neg (by omega)]
    exact Safe.ok _
  | succ fuel ih =>
    rw [parseAttributesLoop]
    refine Safe.ite (fun _ => ?_) fun _ => Safe.ok _
    refine (makeAttributeAt_safe within).bind fun made done => ?_
    have progress := lt_of_makeAttributeAt done
    exact (ih (by omega)).bind fun _ _ => Safe.ok _

theorem parseAttributesLoop_eq_ok (exactly : memory.size = memory.string.length)
    (small : memory.size < 2 ^ 64) (enough : memory.size ≤ offset + fuel)
    {attributes : List Attribute} :
    parseAttributesLoop memory fuel offset = .ok (attributes, memory.size) ↔
      ∃ tiles, Tiles memory.string offset tiles ∧ attributes = tiles.map (tileAttribute memory) := by
  induction fuel generalizing offset attributes with
  | zero =>
    rw [parseAttributesLoop, if_neg (by omega)]
    constructor
    · intro ended
      cases ended
      exact ⟨[], exactly ▸ .done, rfl⟩
    · rintro ⟨tiles, tiled, rfl⟩
      cases tiled with
      | done => rw [exactly, map_nil]
      | tile inside _ => omega
  | succ fuel ih =>
    rw [parseAttributesLoop]
    by_cases before : offset < memory.size
    case neg =>
      rw [if_neg before]
      constructor
      · intro ended
        cases ended
        exact ⟨[], exactly ▸ .done, rfl⟩
      · rintro ⟨tiles, tiled, rfl⟩
        cases tiled with
        | done => rw [exactly, map_nil]
        | tile inside _ => omega
    rw [if_pos before, bind_eq_ok]
    constructor
    · rintro ⟨made, first, rest⟩
      obtain ⟨walked, more, ended⟩ := bind_eq_ok.mp rest
      obtain ⟨inside, rfl⟩ := (makeAttributeAt_eq_ok exactly small before).mp first
      obtain ⟨others, last⟩ := walked
      cases ended
      obtain ⟨tiles, tiled, rfl⟩ := (ih (by omega)).mp more
      exact ⟨offset :: tiles, .tile (exactly ▸ tiled.le) tiled, rfl⟩
    · rintro ⟨tiles, tiled, rfl⟩
      cases tiled with
      | done => omega
      | @tile _ tiles inside rest =>
        have padded := le_aligned (tileLength memory.string offset)
        refine ⟨_, (makeAttributeAt_eq_ok exactly small before).mpr ⟨by omega, rfl⟩, ?_⟩
        rw [(ih (by omega)).mpr ⟨tiles, rest, rfl⟩, ok_bind]
        rfl

end Attributes

/-! ## Messages -/

section Message

variable {memory : Memory}

theorem parseAttributes_eq_ok (exactly : memory.size = memory.string.length)
    (small : memory.size < 2 ^ 64) {attributes : List Attribute} :
    parseAttributes memory = .ok attributes ↔
      ∃ tiles, Tiles memory.string 20 tiles ∧ attributes = tiles.map (tileAttribute memory) := by
  rw [← parseAttributesLoop_eq_ok exactly small (Nat.le_add_left memory.size 20)]
  constructor
  · intro parsed
    obtain ⟨⟨walked, next⟩, done, parsed⟩ := bind_eq_ok.mp parsed
    obtain ⟨_, required, parsed⟩ := bind_eq_ok.mp parsed
    obtain rfl : next = memory.size := require_eq_ok.mp required
    cases parsed
    exact done
  · intro done
    rw [parseAttributes, done, ok_bind, require, if_pos rfl]
    rfl

theorem AcceptsHeader.length_lt {string : Bytes} (accepted : AcceptsHeader string) :
    string.length < 2 ^ 64 := by
  have bound := (field16 string 2).toNat_lt
  have length := accepted.length
  omega

/-- **The messages that are parsed.** -/
theorem parseMessage_eq_ok (exactly : memory.size = memory.string.length) {message : Message} :
    parseMessage memory = .ok message ↔
      AcceptsHeader memory.string ∧ HeaderOf memory.string message.header ∧
      ∃ tiles, Tiles memory.string 20 tiles ∧
        message.attributes = tiles.map (tileAttribute memory) := by
  constructor
  · intro parsed
    obtain ⟨header, reads, parsed⟩ := bind_eq_ok.mp parsed
    obtain ⟨attributes, walked, parsed⟩ := bind_eq_ok.mp parsed
    cases parsed
    obtain ⟨accepted, reads⟩ := (parseHeader_eq_ok exactly).mp reads
    have small : memory.size < 2 ^ 64 := exactly ▸ accepted.length_lt
    exact ⟨accepted, reads, (parseAttributes_eq_ok exactly small).mp walked⟩
  · rintro ⟨accepted, reads, tiled⟩
    have small : memory.size < 2 ^ 64 := exactly ▸ accepted.length_lt
    rw [parseMessage, (parseHeader_eq_ok exactly).mpr ⟨accepted, reads⟩, ok_bind,
      (parseAttributes_eq_ok exactly small).mpr tiled, ok_bind]

theorem parseMessage_safe (exactly : memory.size = memory.string.length) :
    Safe (parseMessage memory) := by
  refine (parseHeader_safe exactly).bind fun _ _ => Safe.bind ?_ fun _ _ => Safe.ok _
  refine (parseAttributesLoop_safe exactly.le (Nat.le_add_left ..)).bind fun _ _ => ?_
  exact (Safe.require _).bind fun _ _ => Safe.ok _

end Message

/-! ## What is asked of a parsed message -/

/-- The value of an attribute lies behind the header of the message and inside of the string. -/
def Attribute.Inside (string : Bytes) (attr : Attribute) : Prop :=
  ∃ memory offset size, attr.data = .serialized memory offset size ∧ memory.string = string ∧
    24 ≤ offset ∧ offset + size ≤ string.length

section Inside

variable {string : Bytes} {attr : Attribute} {message : Message}

/-- The value of any class is asked for safely. -/
theorem Attribute.get_safe (inside : attr.Inside string) (type : AttributeType) :
    Safe (attr.get type) := by
  obtain ⟨memory, offset, size, data, rfl, behind, within⟩ := inside
  rw [Attribute.get, data]
  refine resize_safe.bind fun resized done => ?_
  have inString : resized.size ≤ resized.string.length := by
    rw [resize_ok done]
    exact within
  have header : 20 ≤ resized.string.length := by
    rw [resize_ok done]
    show 20 ≤ memory.string.length
    omega
  have inValue : offset ≤ resized.size := by
    rw [resize_ok done]
    exact Nat.le_add_right offset size
  refine (parseValue_safe inString header inValue type).bind fun _ _ => ?_
  exact (Safe.require _).bind fun _ _ => Safe.ok _

theorem byteSizeLongAttribute_safe (inside : attr.Inside string) :
    Safe (byteSizeLongAttribute attr) := by
  obtain ⟨memory, offset, size, data, rfl, -, within⟩ := inside
  rw [byteSizeLongAttribute, data]
  refine Safe.bind ?_ fun _ _ => Safe.ok _
  exact Safe.ite (fun _ => Safe.thrown _) fun _ => read_safe within

theorem fingerprintValue_safe (value : AttributeValue) : Safe (fingerprintValue value) := by
  unfold fingerprintValue
  split
  · exact Safe.ok _
  · exact Safe.thrown _

theorem outputData_safe (value : AttributeValue) : Safe (outputData value) := by
  unfold outputData
  split
  · exact Safe.ok _
  · exact Safe.thrown _

theorem getAttribute_safe (type : UInt16) : Safe (getAttribute message type) := by
  unfold getAttribute
  split
  · exact Safe.ok _
  · exact Safe.thrown _

theorem mem_of_getAttribute {type : UInt16} (found : getAttribute message type = .ok attr) :
    attr ∈ message.attributes := by
  unfold getAttribute at found
  split at found
  · rename_i first same
    cases found
    exact mem_of_find?_eq_some same
  · cases found

theorem getDataSerialized_safe : Safe attr.getDataSerialized := by
  unfold Attribute.getDataSerialized
  split
  · exact Safe.ok _
  · exact Safe.thrown _

/-- Where the value of an attribute is said to be. -/
theorem Attribute.Inside.dataSerialized (inside : attr.Inside string) {data : Memory × Nat}
    (serialized : attr.getDataSerialized = .ok data) :
    data.1.string = string ∧ 24 ≤ data.2 ∧ data.2 ≤ string.length := by
  obtain ⟨memory, offset, size, stored, rfl, behind, room⟩ := inside
  rw [Attribute.getDataSerialized, stored] at serialized
  cases serialized
  exact ⟨rfl, behind, by omega⟩

theorem checkFingerprint_safe (digests : Digests)
    (inside : ∀ attr ∈ message.attributes, attr.Inside string) :
    Safe (checkFingerprint digests message) := by
  refine (getAttribute_safe _).bind fun attr found => ?_
  have within := inside attr (mem_of_getAttribute found)
  refine (Attribute.get_safe within _).bind fun value _ => ?_
  refine (fingerprintValue_safe value).bind fun current _ => ?_
  refine getDataSerialized_safe.bind fun data serialized => ?_
  obtain ⟨holds, behind, room⟩ := within.dataSerialized serialized
  have short := sizeSub_le (show 4 ≤ data.2 by omega)
  exact (read_safe (by rw [holds]; omega)).bind fun bytes _ => Safe.require _

variable {attributes : List Attribute} {payloadLength : Nat} {bytes : Bytes} {written : Memory}

theorem findIntegrity_safe (inside : ∀ attr ∈ attributes, attr.Inside string) :
    Safe (findIntegrity attributes payloadLength) := by
  induction attributes generalizing payloadLength with
  | nil => exact Safe.thrown _
  | cons attr attributes ih =>
    rw [forall_mem_cons] at inside
    refine (byteSizeLongAttribute_safe inside.1).bind fun _ _ => ?_
    exact Safe.ite (fun _ => Safe.ok _) fun _ => ih inside.2

theorem mem_of_findIntegrity {found : Attribute × Nat}
    (done : findIntegrity attributes payloadLength = .ok found) : found.1 ∈ attributes := by
  induction attributes generalizing payloadLength with
  | nil => cases done
  | cons attr attributes ih =>
    obtain ⟨size, -, done⟩ := bind_eq_ok.mp done
    split at done
    · cases done
      exact mem_cons_self
    · exact mem_cons_of_mem attr (ih done)

theorem write_ok {memory : Memory} {offset : Nat} (done : memory.write offset bytes = .ok written) :
    offset + bytes.length ≤ memory.string.length ∧
      written = { memory with
        string := memory.string.take offset ++ bytes ++
          memory.string.drop (offset + bytes.length) } := by
  rw [Memory.write] at done
  split at done
  · rename_i room
    exact ⟨room, (Except.ok.inj done).symm⟩
  · cases done

theorem length_write {memory : Memory} {offset : Nat}
    (done : memory.write offset bytes = .ok written) :
    written.string.length = memory.string.length := by
  obtain ⟨room, rfl⟩ := write_ok done
  simp only [length_append, length_take, length_drop]
  omega

theorem write_safe {memory : Memory} {offset : Nat}
    (room : offset + bytes.length ≤ memory.string.length) : Safe (memory.write offset bytes) := by
  rw [Memory.write, if_pos room]
  exact Safe.ok _

/-- What an integrity that was asked for says about its attribute. -/
theorem size_of_get_integrity {memory : Memory} {offset size : Nat}
    (data : attr.data = .serialized memory offset size) {value : AttributeValue}
    (got : attr.get .messageIntegrity = .ok value) : size = 20 := by
  rw [Attribute.get, data] at got
  obtain ⟨resized, done, got⟩ := bind_eq_ok.mp got
  obtain ⟨parsed, read, got⟩ := bind_eq_ok.mp got
  obtain ⟨_, required, -⟩ := bind_eq_ok.mp got
  have ends : parsed.2 = resized.size := require_eq_ok.mp required
  rw [resize_ok done] at ends read
  rw [parseValue, parseMessageIntegrity] at read
  split at read
  · cases read
  · obtain ⟨serialized, -, read⟩ := bind_eq_ok.mp read
    cases read
    exact (Nat.add_left_cancel ends).symm

theorem writable_safe {memory : Memory} (within : memory.size ≤ memory.string.length) :
    Safe memory.writable :=
  Safe.ite (fun _ => Safe.ok _) fun _ => (copy_safe within).bind fun _ _ => Safe.ok _

/-- The memory that a length is written into holds as much of the string as its size says. -/
theorem size_le_of_writable {memory target : Memory} (within : memory.size ≤ memory.string.length)
    (done : memory.writable = .ok target) : memory.size ≤ target.string.length := by
  rw [Memory.writable] at done
  split at done
  · cases done
    exact within
  · obtain ⟨bytes, -, done⟩ := bind_eq_ok.mp done
    cases done
    exact bytes.property.ge

theorem expectedIntegrity_safe (digests : Digests) {memory : Memory} {offset : Nat}
    (within : memory.size ≤ memory.string.length) (behind : 24 ≤ offset)
    (room : offset ≤ memory.size) (payloadLength : Nat) (password : Bytes) :
    Safe (expectedIntegrity digests memory offset payloadLength password) := by
  have short := sizeSub_le (show 4 ≤ offset by omega)
  refine (read_safe (by omega)).bind fun old _ => ?_
  refine (writable_safe within).bind fun target copied => ?_
  have long := size_le_of_writable within copied
  refine (write_safe (by rw [length_net16]; omega)).bind fun written wrote => ?_
  have kept := length_write wrote
  refine (read_safe (by omega)).bind fun bytes _ => Safe.bind ?_ fun _ _ => Safe.ok _
  exact Safe.ite (fun _ => write_safe (by rw [length_net16]; omega)) fun _ => Safe.ok _

theorem checkMessageIntegrity_safe (digests : Digests) (password : Bytes)
    (inside : ∀ attr ∈ message.attributes, attr.Inside string) :
    Safe (checkMessageIntegrity digests message password >>= (·.2)) := by
  refine Safe.bind ?_ fun checked done => ?_
  · refine (findIntegrity_safe inside).bind fun found integrity => ?_
    have within := inside found.1 (mem_of_findIntegrity integrity)
    refine (Attribute.get_safe within _).bind fun value got => ?_
    refine (outputData_safe value).bind fun current _ => ?_
    obtain ⟨memory, offset, size, data, rfl, behind, room⟩ := within
    obtain rfl := size_of_get_integrity data got
    simp only [Attribute.getDataSerialized, data, ok_bind]
    refine resize_safe.bind fun narrowed done => ?_
    refine Safe.bind ?_ fun _ _ => Safe.ok _
    rw [resize_ok done]
    exact expectedIntegrity_safe digests room behind (Nat.le_add_right offset 20) _ password
  · obtain ⟨found, -, done⟩ := bind_eq_ok.mp done
    obtain ⟨value, -, done⟩ := bind_eq_ok.mp done
    obtain ⟨current, -, done⟩ := bind_eq_ok.mp done
    obtain ⟨data, -, done⟩ := bind_eq_ok.mp done
    obtain ⟨narrowed, -, done⟩ := bind_eq_ok.mp done
    obtain ⟨expected, -, done⟩ := bind_eq_ok.mp done
    cases done
    exact Safe.require _

end Inside

/-! ## The size that a memory shares -/

/-- An attribute after the size of its memory was changed: the value of another attribute of the
message was asked for. -/
def Attribute.resized (size : Nat) (attr : Attribute) : Attribute where
  header := attr.header
  data := match attr.data with
    | .undefined => .undefined
    | .serialized memory offset length => .serialized { memory with size } offset length
    | .parsed value => .parsed value

/-- A message after the size of its memory was changed. -/
def Message.resized (size : Nat) (message : Message) : Message where
  header := message.header
  attributes := message.attributes.map (·.resized size)

theorem Attribute.Inside.resized {string : Bytes} {attr : Attribute} (inside : attr.Inside string)
    (size : Nat) : (attr.resized size).Inside string := by
  obtain ⟨memory, offset, length, data, holds, behind, within⟩ := inside
  refine ⟨{ memory with size }, offset, length, ?_, holds, behind, within⟩
  rw [Attribute.resized, data]

/-! ## The grammar -/

/-- The memory of a string that was received, in a buffer that may be longer. -/
def received (string : Bytes) (spare : Nat) (isMutable : Bool) : Memory where
  string
  size := string.length
  capacity := string.length + spare
  isMutable

theorem tileAttribute_inside {memory : Memory} (behind : 20 ≤ start)
    (within : start + 4 + tileLength memory.string start ≤ memory.string.length) :
    (tileAttribute memory start).Inside memory.string :=
  ⟨memory, start + 4, tileLength memory.string start, rfl, rfl, by omega, within⟩

theorem parseMessage_inside {memory : Memory} (exactly : memory.size = memory.string.length)
    {message : Message} (parsed : parseMessage memory = .ok message) :
    ∀ attr ∈ message.attributes, attr.Inside memory.string := by
  obtain ⟨-, -, tiles, tiled, attributes⟩ := (parseMessage_eq_ok exactly).mp parsed
  rw [attributes]
  intro attr mem
  obtain ⟨start, among, rfl⟩ := mem_map.mp mem
  obtain ⟨behind, within⟩ := tiled.inside among
  exact tileAttribute_inside behind within

/-- **The parser accepts its grammar and stays inside of the string**, whatever size the memory is
left with by values that were asked for before. -/
theorem parseMessage_grammar (string : Bytes) (spare : Nat) (isMutable : Bool) :
    Safe (parseMessage (received string spare isMutable)) ∧
    ((∃ message, parseMessage (received string spare isMutable) = .ok message) ↔
      Accepts string) ∧
    ∀ message, parseMessage (received string spare isMutable) = .ok message →
      (∀ attr ∈ message.attributes, ∃ offset,
        attr.data = .serialized (received string spare isMutable) offset
            attr.header.length.toNat ∧
          24 ≤ offset ∧ offset + attr.header.length.toNat ≤ string.length) ∧
      ∀ size,
        (∀ attr ∈ message.attributes, ∀ type, Safe ((attr.resized size).get type)) ∧
        ∀ digests, Safe (checkFingerprint digests (message.resized size)) ∧
          ∀ password,
            Safe (checkMessageIntegrity digests (message.resized size) password >>= (·.2)) := by
  have exactly : (received string spare isMutable).size =
      (received string spare isMutable).string.length := rfl
  refine ⟨parseMessage_safe exactly, ?grammar, fun message parsed => ⟨?_, fun size => ?_⟩⟩
  case grammar =>
    constructor
    · rintro ⟨message, parsed⟩
      obtain ⟨accepted, -, tiles, tiled, -⟩ := (parseMessage_eq_ok exactly).mp parsed
      exact ⟨accepted, tiles, tiled⟩
    · rintro ⟨accepted, tiles, tiled⟩
      have header : ((string.drop 8).take 12).length = 12 := by
        have long := accepted.long
        rw [length_take, length_drop]
        omega
      exact ⟨{
        header := {
          type := field16 string 0
          payloadLength := field16 string 2
          magic := stunMagic
          transactionId := ⟨(string.drop 8).take 12, header⟩ }
        attributes := tiles.map (tileAttribute (received string spare isMutable)) },
        (parseMessage_eq_ok exactly).mpr ⟨accepted, ⟨rfl, rfl, rfl, rfl⟩, tiles, tiled, rfl⟩⟩
  · obtain ⟨-, -, tiles, tiled, attributes⟩ := (parseMessage_eq_ok exactly).mp parsed
    rw [attributes]
    intro attr mem
    obtain ⟨start, among, rfl⟩ := mem_map.mp mem
    obtain ⟨behind, within⟩ := tiled.inside among
    exact ⟨start + 4, rfl, by omega, within⟩
  · have inside := parseMessage_inside exactly parsed
    have resized : ∀ attr ∈ (message.resized size).attributes, attr.Inside string := by
      intro attr mem
      obtain ⟨first, among, rfl⟩ := mem_map.mp mem
      exact (inside first among).resized size
    refine ⟨fun attr mem type => Attribute.get_safe ((inside attr mem).resized size) type,
      fun digests => ⟨checkFingerprint_safe digests resized, fun password => ?_⟩⟩
    exact checkMessageIntegrity_safe digests password resized

/-- A binding request with a software of three bytes. -/
def softwareRequest : Bytes :=
  [0x00, 0x01, 0x00, 0x08, 0x21, 0x12, 0xA4, 0x42] ++ List.replicate 12 0x00 ++
    [0x80, 0x22, 0x00, 0x03, 0x61, 0x62, 0x63, 0x00]

theorem parseMessage_grammar_softwareRequest :
    ∃ message, parseMessage (received softwareRequest 0 true) = .ok message ∧
      (∀ attr ∈ message.attributes, ∃ offset,
        attr.data = .serialized (received softwareRequest 0 true) offset
            attr.header.length.toNat ∧
          24 ≤ offset ∧ offset + attr.header.length.toNat ≤ softwareRequest.length) := by
  have tiled : Tiles softwareRequest 20 [20] := by
    have room : 20 + 4 + aligned (tileLength softwareRequest 20) ≤ softwareRequest.length := by
      decide
    exact .tile room .done
  have header : AcceptsHeader softwareRequest :=
    ⟨by decide, by decide, by decide, by decide, by decide, .request, .binding, by decide⟩
  obtain ⟨-, accepts, inside⟩ := parseMessage_grammar softwareRequest 0 true
  obtain ⟨message, parsed⟩ := accepts.mpr ⟨header, [20], tiled⟩
  exact ⟨message, parsed, (inside message parsed).1⟩

end Rstream.Stun
