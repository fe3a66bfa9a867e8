import Rstream.Webtty.AuthProof

/-!
# Base64 without padding

Keys, key ids and fingerprints are written in the alphabet of base64 for URLs, without padding.
Three bytes are four characters; one or two bytes at the end are two or three characters, whose
unused bits are zero. The decoder does not look at those bits: it encodes what it decoded and
compares, so it accepts exactly the texts that the encoder writes (`base64urlDecode_ok_iff`).
-/

namespace Rstream.Webtty.Cli

open Nat

/-! ## The source -/

def alphabet : Bytes :=
  bytesFromString "ABCDEFGHIJKLMNOPQRSTUVWXYZabcdefghijklmnopqrstuvwxyz0123456789-_"

/-- `alphabet[v & 0x3f]`. -/
def character (v : Nat) : UInt8 := alphabet.getD (v &&& 0x3f) 0

def base64urlEncode : Bytes → Bytes
  | first :: second :: third :: rest =>
    let v := first.toNat <<< 16 ||| second.toNat <<< 8 ||| third.toNat
    character (v >>> 18) :: character (v >>> 12) :: character (v >>> 6) :: character v ::
      base64urlEncode rest
  | [first, second] =>
    let v := first.toNat <<< 16 ||| second.toNat <<< 8
    [character (v >>> 18), character (v >>> 12), character (v >>> 6)]
  | [first] =>
    let v := first.toNat <<< 16
    [character (v >>> 18), character (v >>> 12)]
  | [] => []

/-- `base64url_value`, with `none` for a negative value. -/
def base64urlValue (c : UInt8) : Option Nat :=
  if 65 ≤ c ∧ c ≤ 90 then some (c.toNat - 65)
  else if 97 ≤ c ∧ c ≤ 122 then some (c.toNat - 97 + 26)
  else if 48 ≤ c ∧ c ≤ 57 then some (c.toNat - 48 + 52)
  else if c = 45 then some 62
  else if c = 95 then some 63
  else none

/-- The loop of `base64url_decode` and what follows it. A single character at the end is not
read. -/
def base64urlGroups : Bytes → Option Bytes
  | a :: b :: c :: d :: rest => do
      let a ← base64urlValue a
      let b ← base64urlValue b
      let c ← base64urlValue c
      let d ← base64urlValue d
      let v := a <<< 18 ||| b <<< 12 ||| c <<< 6 ||| d
      let out ← base64urlGroups rest
      some (UInt8.ofNat (v >>> 16) :: UInt8.ofNat (v >>> 8) :: UInt8.ofNat v :: out)
  | [a, b, c] => do
      let a ← base64urlValue a
      let b ← base64urlValue b
      let c ← base64urlValue c
      let v := a <<< 18 ||| b <<< 12 ||| c <<< 6
      some [UInt8.ofNat (v >>> 16), UInt8.ofNat (v >>> 8)]
  | [a, b] => do
      let a ← base64urlValue a
      let b ← base64urlValue b
      let v := a <<< 18 ||| b <<< 12
      some [UInt8.ofNat (v >>> 16)]
  | _ => some []

/-- `base64url_decode`, with the text of the exception. -/
def base64urlDecode (raw : Bytes) (expectedSize : Nat) (field : String) : Except String Bytes :=
  let value := trimCopy raw
  if value = [] then .error (field ++ " is empty")
  else if 61 ∈ value ∨ value.length % 4 = 1 then .error ("invalid " ++ field)
  else
    match base64urlGroups value with
    | none => .error ("invalid " ++ field)
    | some out =>
      if 0 < expectedSize ∧ out.length ≠ expectedSize then
        .error (field ++ " must decode to " ++ toString expectedSize ++ " bytes")
      else if base64urlEncode out ≠ value then
        .error (field ++ " must be canonical base64url without padding")
      else .ok out

/-! ## Characters -/

set_option maxRecDepth 1000 in
/-- The characters are those of the values below 64. -/
theorem base64urlValue_character (v : Nat) : base64urlValue (character v) = some (v % 64) := by
  have known : ∀ index : Fin 64,
      base64urlValue (alphabet.getD index.val 0) = some index.val := by decide
  have masked : v &&& 0x3f = v % 64 := and_two_pow_sub_one_eq_mod v 6
  rw [character, masked]
  exact known ⟨v % 64, mod_lt v (by decide)⟩

set_option maxRecDepth 1000 in
/-- A character of the alphabet is neither a space nor a colon nor an equals sign. -/
theorem character_plain (v : Nat) :
    isSpace (character v) = false ∧ character v ≠ 58 ∧ character v ≠ 61 := by
  have plain : ∀ index : Fin 64, isSpace (alphabet.getD index.val 0) = false ∧
      alphabet.getD index.val 0 ≠ 58 ∧ alphabet.getD index.val 0 ≠ 61 := by decide
  have masked : v &&& 0x3f = v % 64 := and_two_pow_sub_one_eq_mod v 6
  rw [character, masked]
  exact plain ⟨v % 64, mod_lt v (by decide)⟩

variable {bytes : Bytes} {expectedSize : Nat}

/-- Every character of an encoding is a character of the alphabet. -/
theorem exists_of_mem_base64urlEncode {c : UInt8} (mem : c ∈ base64urlEncode bytes) :
    ∃ v, c = character v := by
  induction bytes using base64urlEncode.induct with
  | case1 first second third rest ih =>
    rw [base64urlEncode] at mem
    simp only [List.mem_cons] at mem
    obtain same | same | same | same | mem := mem
    · exact ⟨_, same⟩
    · exact ⟨_, same⟩
    · exact ⟨_, same⟩
    · exact ⟨_, same⟩
    · exact ih mem
  | case2 first second =>
    rw [base64urlEncode] at mem
    simp only [List.mem_cons, List.not_mem_nil, or_false] at mem
    obtain same | same | same := mem
    · exact ⟨_, same⟩
    · exact ⟨_, same⟩
    · exact ⟨_, same⟩
  | case3 first =>
    rw [base64urlEncode] at mem
    simp only [List.mem_cons, List.not_mem_nil, or_false] at mem
    obtain same | same := mem
    · exact ⟨_, same⟩
    · exact ⟨_, same⟩
  | case4 => exact absurd mem List.not_mem_nil

/-- Without spaces there is nothing to trim. -/
theorem trimCopy_of_plain {value : Bytes} (plain : ∀ byte ∈ value, isSpace byte = false) :
    trimCopy value = value := by
  have stays : ∀ bytes : Bytes, (∀ byte ∈ bytes, isSpace byte = false) →
      bytes.dropWhile isSpace = bytes := by
    intro bytes plain
    cases bytes with
    | nil => rfl
    | cons byte rest =>
      exact List.dropWhile_cons_of_neg (Bool.eq_false_iff.mp (plain byte List.mem_cons_self))
  have reversed : ∀ byte ∈ value.reverse, isSpace byte = false := by
    intro byte mem
    exact plain byte (List.mem_reverse.mp mem)
  rw [trimCopy, stays value plain, stays value.reverse reversed, List.reverse_reverse]

theorem trimCopy_base64urlEncode (bytes : Bytes) :
    trimCopy (base64urlEncode bytes) = base64urlEncode bytes := by
  apply trimCopy_of_plain
  intro c mem
  obtain ⟨v, rfl⟩ := exists_of_mem_base64urlEncode mem
  exact (character_plain v).1

theorem colon_notMem_base64urlEncode (bytes : Bytes) : 58 ∉ base64urlEncode bytes := by
  intro mem
  obtain ⟨v, same⟩ := exists_of_mem_base64urlEncode mem
  exact (character_plain v).2.1 same.symm

theorem equals_notMem_base64urlEncode (bytes : Bytes) : 61 ∉ base64urlEncode bytes := by
  intro mem
  obtain ⟨v, same⟩ := exists_of_mem_base64urlEncode mem
  exact (character_plain v).2.2 same.symm

/-- No encoding has one character more than a multiple of four. -/
theorem length_base64urlEncode (bytes : Bytes) : (base64urlEncode bytes).length % 4 ≠ 1 := by
  induction bytes using base64urlEncode.induct with
  | case1 first second third rest ih =>
    rw [base64urlEncode]
    simp only [List.length_cons]
    omega
  | case2 first second | case3 first | case4 => rw [base64urlEncode]; simp

@[simp] theorem base64urlEncode_eq_nil : base64urlEncode bytes = [] ↔ bytes = [] := by
  constructor
  · intro empty
    cases bytes using base64urlEncode.induct with
    | case1 | case2 | case3 => rw [base64urlEncode] at empty; cases empty
    | case4 => rfl
  · rintro rfl
    rfl

/-! ## Groups -/

/-- A number below `2 ^ width` takes the bits that the shift leaves free. -/
theorem shiftLeft_or {low width : Nat} (high : Nat) (small : low < 2 ^ width) :
    high <<< width ||| low = high * 2 ^ width + low := by
  rw [← shiftLeft_add_eq_or_of_lt small, shiftLeft_eq]

/-- Three bytes in one number. -/
theorem join_bytes {first second third : Nat} (small : second < 256) (small' : third < 256) :
    first <<< 16 ||| second <<< 8 ||| third = (first * 256 + second) * 256 + third := by
  have low : second <<< 8 ||| third = second * 2 ^ 8 + third := shiftLeft_or second small'
  have fits : second * 2 ^ 8 + third < 2 ^ 16 := by omega
  rw [Nat.or_assoc, low, shiftLeft_or first fits]
  omega

/-- Four characters in one number. -/
theorem join_characters {a b c d : Nat} (small : b < 64) (small' : c < 64) (small'' : d < 64) :
    a <<< 18 ||| b <<< 12 ||| c <<< 6 ||| d = ((a * 64 + b) * 64 + c) * 64 + d := by
  have low : c <<< 6 ||| d = c * 2 ^ 6 + d := shiftLeft_or c small''
  have fits : c * 2 ^ 6 + d < 2 ^ 12 := by omega
  have middle : b <<< 12 ||| (c * 2 ^ 6 + d) = b * 2 ^ 12 + (c * 2 ^ 6 + d) :=
    shiftLeft_or b fits
  have fits' : b * 2 ^ 12 + (c * 2 ^ 6 + d) < 2 ^ 18 := by omega
  rw [Nat.or_assoc, low, Nat.or_assoc, middle, shiftLeft_or a fits']
  omega

/-- Decoding the groups of an encoding, by the groups of the bytes. -/
theorem base64urlGroups_base64urlEncode (bytes : Bytes) :
    base64urlGroups (base64urlEncode bytes) = some bytes := by
  induction bytes using base64urlEncode.induct with
  | case1 first second third rest ih =>
    have joined := @join_bytes first.toNat _ _ second.toNat_lt third.toNat_lt
    have regrouped := fun v => @join_characters (v / 2 ^ 18 % 64) (v / 2 ^ 12 % 64)
      (v / 2 ^ 6 % 64) (v % 64) (mod_lt _ (by decide)) (mod_lt _ (by decide))
      (mod_lt _ (by decide))
    have bound := first.toNat_lt
    have bound' := second.toNat_lt
    have bound'' := third.toNat_lt
    rw [base64urlEncode, base64urlGroups, ih]
    simp only [base64urlValue_character, Option.bind_eq_bind, Option.bind_some, joined,
      shiftRight_eq_div_pow, regrouped, Option.some.injEq, List.cons.injEq, and_true]
    refine ⟨UInt8.toNat.inj ?_, UInt8.toNat.inj ?_, UInt8.toNat.inj ?_⟩
    · rw [UInt8.toNat_ofNat']
      omega
    · rw [UInt8.toNat_ofNat']
      omega
    · rw [UInt8.toNat_ofNat']
      omega
  | case2 first second =>
    have joined : first.toNat <<< 16 ||| second.toNat <<< 8 =
        (first.toNat * 256 + second.toNat) * 256 + 0 := by
      rw [← join_bytes second.toNat_lt (by decide), or_zero]
    have regrouped : ∀ v : Nat,
        (v / 2 ^ 18 % 64) <<< 18 ||| (v / 2 ^ 12 % 64) <<< 12 ||| (v / 2 ^ 6 % 64) <<< 6 =
          ((v / 2 ^ 18 % 64 * 64 + v / 2 ^ 12 % 64) * 64 + v / 2 ^ 6 % 64) * 64 + 0 := by
      intro v
      rw [← join_characters (mod_lt _ (by decide)) (mod_lt _ (by decide)) (by decide),
        or_zero]
    have bound := first.toNat_lt
    have bound' := second.toNat_lt
    rw [base64urlEncode, base64urlGroups]
    simp only [base64urlValue_character, Option.bind_eq_bind, Option.bind_some, joined,
      shiftRight_eq_div_pow, regrouped, Option.some.injEq, List.cons.injEq, and_true]
    refine ⟨UInt8.toNat.inj ?_, UInt8.toNat.inj ?_⟩
    · rw [UInt8.toNat_ofNat']
      omega
    · rw [UInt8.toNat_ofNat']
      omega
  | case3 first =>
    have joined : first.toNat <<< 16 = (first.toNat * 256 + 0) * 256 + 0 := by
      rw [shiftLeft_eq]
      omega
    have regrouped : ∀ v : Nat, (v / 2 ^ 18 % 64) <<< 18 ||| (v / 2 ^ 12 % 64) <<< 12 =
        ((v / 2 ^ 18 % 64 * 64 + v / 2 ^ 12 % 64) * 64 + 0) * 64 + 0 := by
      intro v
      rw [← join_characters (mod_lt _ (by decide)) (by decide) (by decide),
        zero_shiftLeft, or_zero, or_zero]
    have bound := first.toNat_lt
    rw [base64urlEncode, base64urlGroups]
    simp only [base64urlValue_character, Option.bind_eq_bind, Option.bind_some, joined,
      shiftRight_eq_div_pow, regrouped, Option.some.injEq, List.cons.injEq, and_true]
    refine UInt8.toNat.inj ?_
    rw [UInt8.toNat_ofNat']
    omega
  | case4 => rfl

/-- An encoding can be read back, so no two byte strings have the same one. -/
theorem base64urlEncode_injective : Function.Injective base64urlEncode := by
  intro bytes more same
  have decoded := base64urlGroups_base64urlEncode bytes
  rw [same, base64urlGroups_base64urlEncode] at decoded
  exact (Option.some.inj decoded).symm

/-! ## The decoder -/

/-- The texts that are accepted, and what they are decoded to. -/
theorem base64urlDecode_ok_iff {raw : Bytes} {field : String} :
    base64urlDecode raw expectedSize field = .ok bytes ↔
      trimCopy raw = base64urlEncode bytes ∧ bytes ≠ [] ∧
        (expectedSize = 0 ∨ bytes.length = expectedSize) := by
  constructor
  · intro decoded
    rw [base64urlDecode] at decoded
    split at decoded
    · cases decoded
    rename_i nonempty
    split at decoded
    · cases decoded
    split at decoded
    · cases decoded
    rename_i out _
    split at decoded
    · cases decoded
    rename_i sized
    split at decoded
    · cases decoded
    rename_i canonical
    obtain rfl := Except.ok.inj decoded
    have spelled : trimCopy raw = base64urlEncode out := (not_not.mp canonical).symm
    refine ⟨spelled, ?_, by omega⟩
    rintro rfl
    exact nonempty spelled
  · rintro ⟨spelled, nonempty, sized⟩
    have read : base64urlEncode bytes ≠ [] := fun empty => nonempty (base64urlEncode_eq_nil.mp empty)
    have clean : ¬(61 ∈ base64urlEncode bytes ∨ (base64urlEncode bytes).length % 4 = 1) :=
      not_or.mpr ⟨equals_notMem_base64urlEncode bytes, length_base64urlEncode bytes⟩
    rw [base64urlDecode, spelled, if_neg read, if_neg clean, base64urlGroups_base64urlEncode]
    simp only
    rw [if_neg (by omega), if_neg (not_not.mpr rfl)]

theorem base64urlDecode_base64urlEncode (field : String) (nonempty : bytes ≠ [])
    (sized : expectedSize = 0 ∨ bytes.length = expectedSize) :
    base64urlDecode (base64urlEncode bytes) expectedSize field = .ok bytes :=
  base64urlDecode_ok_iff.mpr ⟨trimCopy_base64urlEncode bytes, nonempty, sized⟩

end Rstream.Webtty.Cli
