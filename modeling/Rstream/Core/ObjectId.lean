import Mathlib.Data.List.Nodup
import Rstream.Library.Hexadecimals

/-!
# Object ids

An object id is the text of a timestamp, of the machine, of the process and of a counter, in
hexadecimal. The ids of one process differ by their counter, of which the text keeps 24 bits: it
repeats after `2 ^ 24` ids and not before, also where the counter itself wraps around.
-/

namespace Rstream.Core

open Library List

/-! ## `object_id_generator` -/

structure ObjectIdGenerator where
  machineId : UInt32
  processId : UInt16
  counter : UInt32

def appendHexByte (value : UInt8) : List Char := hexadecimal 2 value.toNat

def appendHexWord (value : UInt32) : List Char := hexadecimal 8 value.toNat

/-- `append_hex` of the three lowest bytes of a word, the most significant first. -/
def appendHexBytes (value : UInt32) : List Char :=
  [(2 : UInt32), 1, 0].flatMap fun i => appendHexByte ((value >>> (i * 8)) &&& 0xFF).toUInt8

namespace ObjectIdGenerator

variable (generator : ObjectIdGenerator)

/-- The text of an id; the time is that of the clock, cut to 32 bits. -/
def text (time : Int) : List Char :=
  appendHexWord (UInt32.ofInt time) ++ appendHexBytes generator.machineId ++
    (appendHexByte ((generator.processId >>> 8) &&& 0xFF).toUInt8 ++
      appendHexByte (generator.processId &&& 0xFF).toUInt8) ++
    appendHexBytes (generator.counter &&& 0xFFFFFF)

/-- `generate`, at a time of the clock. -/
def generate (time : Int) : String × ObjectIdGenerator :=
  (String.ofList (generator.text time), { generator with counter := generator.counter + 1 })

/-- The ids that are generated at the readings of the clock, in order. -/
def ids : ObjectIdGenerator → List Int → List String
  | _, [] => []
  | generator, time :: times => (generator.generate time).1 :: ids (generator.generate time).2 times

/-- The generator after a number of ids. -/
def advance (count : Nat) : ObjectIdGenerator :=
  { generator with counter := generator.counter + UInt32.ofNat count }

end ObjectIdGenerator

/-! ## Texts -/

theorem length_appendHexByte (value : UInt8) : (appendHexByte value).length = 2 :=
  length_hexadecimal (by decide) value.toNat_lt

theorem length_appendHexWord (value : UInt32) : (appendHexWord value).length = 8 :=
  length_hexadecimal (by decide) value.toNat_lt

theorem length_appendHexBytes (value : UInt32) : (appendHexBytes value).length = 6 := by
  simp [appendHexBytes, length_appendHexByte]

theorem appendHexByte_injective : Function.Injective appendHexByte := by
  intro first second same
  exact UInt8.toNat_inj.mp (hexadecimal_injective 2 same)

theorem toNat_byte (value shift : UInt32) (small : shift.toNat < 32) :
    ((value >>> shift) &&& 0xFF).toUInt8.toNat = value.toNat / 2 ^ shift.toNat % 256 := by
  rw [UInt32.toNat_toUInt8, UInt32.toNat_and, UInt32.toNat_shiftRight, Nat.mod_eq_of_lt small,
    Nat.shiftRight_eq_div_pow]
  have mask : (0xFF : UInt32).toNat = 2 ^ 8 - 1 := rfl
  rw [mask, Nat.and_two_pow_sub_one_eq_mod]
  exact Nat.mod_mod _ _

/-- The text of three bytes is that of a number below `2 ^ 24`. -/
theorem appendHexBytes_injective {first second : UInt32}
    (same : appendHexBytes first = appendHexBytes second) :
    first.toNat % 2 ^ 24 = second.toNat % 2 ^ 24 := by
  simp only [appendHexBytes, flatMap_cons, flatMap_nil, append_nil] at same
  obtain ⟨high, same⟩ := append_inj same (by rw [length_appendHexByte, length_appendHexByte])
  obtain ⟨middle, low⟩ := append_inj same (by rw [length_appendHexByte, length_appendHexByte])
  have byte : ∀ shift : UInt32, shift.toNat < 32 →
      appendHexByte ((first >>> shift) &&& 0xFF).toUInt8 =
        appendHexByte ((second >>> shift) &&& 0xFF).toUInt8 →
      first.toNat / 2 ^ shift.toNat % 256 = second.toNat / 2 ^ shift.toNat % 256 := by
    intro shift small equal
    rw [← toNat_byte first shift small, ← toNat_byte second shift small,
      appendHexByte_injective equal]
  have highByte := byte (2 * 8) (by decide) high
  have middleByte := byte (1 * 8) (by decide) middle
  have lowByte := byte (0 * 8) (by decide) low
  have shifts : (2 * 8 : UInt32).toNat = 16 ∧ (1 * 8 : UInt32).toNat = 8 ∧
      (0 * 8 : UInt32).toNat = 0 := ⟨rfl, rfl, rfl⟩
  rw [shifts.1] at highByte
  rw [shifts.2.1] at middleByte
  rw [shifts.2.2] at lowByte
  omega

namespace ObjectIdGenerator

variable (generator : ObjectIdGenerator)

theorem length_text (time : Int) : (generator.text time).length = 24 := by
  simp only [text, length_append, length_appendHexWord, length_appendHexBytes,
    length_appendHexByte]

theorem isHexDigit_of_mem_bytes {value : UInt32} :
    ∀ digit ∈ appendHexBytes value, isHexDigit digit = true := by
  intro digit mem
  obtain ⟨i, -, mem⟩ := mem_flatMap.mp mem
  exact isHexDigit_of_mem digit mem

theorem isHexDigit_of_mem_text (time : Int) :
    ∀ digit ∈ generator.text time, isHexDigit digit = true := by
  simp only [text, forall_mem_append]
  exact ⟨⟨⟨isHexDigit_of_mem, isHexDigit_of_mem_bytes⟩, isHexDigit_of_mem, isHexDigit_of_mem⟩,
    isHexDigit_of_mem_bytes⟩

/-- **Equal texts are of counters that are equal up to a multiple of `2 ^ 24`.** -/
theorem counter_of_text_eq {first second : ObjectIdGenerator} {time time' : Int}
    (same : first.text time = second.text time') :
    first.counter.toNat % 2 ^ 24 = second.counter.toNat % 2 ^ 24 := by
  have last := (append_inj_right' same
    (by rw [length_appendHexBytes, length_appendHexBytes]))
  have kept := appendHexBytes_injective last
  have mask : (0xFFFFFF : UInt32).toNat = 2 ^ 24 - 1 := rfl
  rwa [UInt32.toNat_and, UInt32.toNat_and, mask, Nat.and_two_pow_sub_one_eq_mod,
    Nat.and_two_pow_sub_one_eq_mod, Nat.mod_mod, Nat.mod_mod] at kept

/-! ## Runs -/

theorem advance_zero : generator.advance 0 = generator := by
  obtain ⟨machineId, processId, counter⟩ := generator
  exact congrArg _ (UInt32.add_zero counter)

theorem advance_succ (count : Nat) :
    ({ generator with counter := generator.counter + 1 } : ObjectIdGenerator).advance count =
      generator.advance (count + 1) := by
  rw [advance, advance, UInt32.ofNat_add, UInt32.add_comm (UInt32.ofNat count)]
  exact congrArg _ (UInt32.add_assoc _ _ _)

theorem exists_of_mem_ids {times : List Int} {id : String} (mem : id ∈ generator.ids times) :
    ∃ count < times.length, ∃ time, id = String.ofList ((generator.advance count).text time) := by
  induction times generalizing generator with
  | nil => exact absurd mem not_mem_nil
  | cons time times ih =>
    rw [ids, mem_cons] at mem
    rcases mem with rfl | mem
    · refine ⟨0, Nat.succ_pos _, time, ?_⟩
      rw [advance_zero]
      rfl
    · obtain ⟨count, short, reading, same⟩ := ih _ mem
      refine ⟨count + 1, Nat.succ_lt_succ short, reading, ?_⟩
      rw [same]
      exact congrArg (fun later => String.ofList (text later reading))
        (generator.advance_succ count)

theorem drop_ids (start : Nat) (times : List Int) :
    (generator.ids times).drop start = (generator.advance start).ids (times.drop start) := by
  induction start generalizing generator times with
  | zero => rw [advance_zero, drop_zero, drop_zero]
  | succ start ih =>
    cases times with
    | nil => rfl
    | cons time times =>
      rw [ids, drop_succ_cons, drop_succ_cons, ih, ← advance_succ]
      rfl

theorem take_ids (count : Nat) (times : List Int) :
    (generator.ids times).take count = generator.ids (times.take count) := by
  induction count generalizing generator times with
  | zero => rfl
  | succ count ih =>
    cases times with
    | nil => rfl
    | cons time times => rw [ids, take_succ_cons, take_succ_cons, ids, ih]

/-- The counter of a later id of a short run is another one. -/
theorem counter_advance_ne {count : Nat} (positive : 0 < count) (short : count < 2 ^ 24) :
    generator.counter.toNat % 2 ^ 24 ≠ (generator.advance count).counter.toNat % 2 ^ 24 := by
  have later : (generator.advance count).counter.toNat =
      (generator.counter.toNat + count) % 2 ^ 32 := by
    rw [advance, UInt32.toNat_add, UInt32.toNat_ofNat', Nat.add_mod_mod]
  rw [later]
  omega

theorem nodup_ids {times : List Int} (short : times.length ≤ 2 ^ 24) :
    (generator.ids times).Nodup := by
  induction times generalizing generator with
  | nil => exact nodup_nil
  | cons time times ih =>
    rw [length_cons] at short
    rw [ids, nodup_cons]
    refine ⟨fun repeated => ?_, ih _ (Nat.le_of_succ_le short)⟩
    obtain ⟨count, small, reading, same⟩ := exists_of_mem_ids _ repeated
    rw [generate, advance_succ] at same
    have counters := counter_of_text_eq (String.ofList_injective same)
    exact counter_advance_ne generator count.succ_pos
      (Nat.lt_of_lt_of_le (Nat.succ_lt_succ small) short) counters

/-- **Any `2 ^ 24` ids in a row are pairwise distinct texts of 24 hexadecimal digits**, whatever the
machine, the process, the counter and the readings of the clock are. -/
theorem window_ids (times : List Int) (start : Nat) :
    (((generator.ids times).drop start).take (2 ^ 24)).Nodup ∧
      ∀ id ∈ generator.ids times,
        id.length = 24 ∧ ∀ digit ∈ id.toList, isHexDigit digit = true := by
  constructor
  · rw [drop_ids, take_ids]
    exact nodup_ids _ (length_take_le _ _)
  · intro id mem
    obtain ⟨count, -, time, rfl⟩ := exists_of_mem_ids generator mem
    rw [String.length_ofList, String.toList_ofList]
    exact ⟨length_text _ time, isHexDigit_of_mem_text _ time⟩

end ObjectIdGenerator

end Rstream.Core
