import Rstream.Webtty.AuthProof
import Rstream.Library.PrefixCodes
import Rstream.Library.SortedMaps

/-!
# JSON values and their texts

The values of the parser. An object is an ordered map: its members stand in the order of their
keys, whatever the order of the text. Signed integers and unsigned ones are one kind of value, as
they are compared and written alike.

The text of a string ends where its closing quote is, so texts of strings can be told from what
follows them (`dumpString_stringDump`); the text of an integer can when no digit follows
(`dumpInteger_append_inj`).
-/

namespace Rstream.Webtty.Cli

open Library List

/-! ## Values -/

/-- `nlohmann::json`, as far as the parser yields it. A float is given by its bits. -/
inductive Json where
  | null
  | boolean (value : Bool)
  | integer (value : Int)
  | float (bits : UInt64)
  | string (value : Bytes)
  | array (elements : List Json)
  | object (members : List (Bytes × Json))

namespace Json

def isNull : Json → Bool
  | null => true
  | _ => false

def isObject : Json → Bool
  | object _ => true
  | _ => false

/-- `find`, which finds nothing in what is no object. -/
def find? (key : Bytes) : Json → Option Json
  | object members => (members.find? fun member => member.1 == key).map Prod.snd
  | _ => none

/-- `get<std::string>`, which throws on what is no string. -/
def getString : Json → Option Bytes
  | string value => some value
  | _ => none

/-- `get<int>`, which casts a number or a boolean and throws on anything else. -/
def getInt : Json → Option Int32
  | boolean value => some (if value then 1 else 0)
  | integer value => some (Int32.ofInt value)
  | float bits => some (Float.ofBits bits).toInt32
  | _ => none

/-- `at(key).get<std::string>()`. -/
def atString (value : Json) (key : String) : Option Bytes :=
  (value.find? (bytesFromString key)).bind getString

mutual

/-- The members of every object stand in the order of their keys. -/
def Ordered : Json → Prop
  | null => True
  | boolean _ => True
  | integer _ => True
  | float _ => True
  | string _ => True
  | array elements => OrderedElements elements
  | object members =>
    members.Pairwise (fun first second => first.1 < second.1) ∧ OrderedMembers members

def OrderedElements : List Json → Prop
  | [] => True
  | value :: rest => value.Ordered ∧ OrderedElements rest

def OrderedMembers : List (Bytes × Json) → Prop
  | [] => True
  | (_, value) :: rest => value.Ordered ∧ OrderedMembers rest

end

variable {members : List (Bytes × Json)} {key : Bytes} {value : Json}

theorem ordered_of_mem {member : Bytes × Json} (ordered : OrderedMembers members)
    (mem : member ∈ members) : member.2.Ordered := by
  induction members with
  | nil => cases mem
  | cons first rest ih =>
    obtain rfl | mem := mem_cons.mp mem
    · exact ordered.1
    · exact ih ordered.2 mem

theorem mem_of_find? (found : (object members).find? key = some value) :
    (key, value) ∈ members := by
  obtain ⟨member, within, rfl⟩ := Option.map_eq_some_iff.mp found
  obtain rfl : member.1 = key := beq_iff_eq.mp (find?_eq_some_iff_append.mp within).1
  exact mem_of_find?_eq_some within

theorem ordered_of_find? {inner : Json} (ordered : value.Ordered)
    (found : value.find? key = some inner) : inner.Ordered := by
  cases value with
  | object members => exact ordered_of_mem ordered.2 (mem_of_find? found)
  | _ => cases found

/-- An object whose members are inserted one after the other. -/
def objectOf (members : List (Bytes × Json)) : Json := object (SortedMap.ofList members).entries

/-- **Members with distinct keys make the same object in every order.** -/
theorem objectOf_perm {others : List (Bytes × Json)} (distinct : (members.map Prod.fst).Nodup)
    (perm : members.Perm others) : objectOf members = objectOf others := by
  rw [objectOf, SortedMap.ofList_perm distinct perm, objectOf]

end Json

/-! ## Texts -/

/-- The digits of a natural number. -/
def dumpDigits (value : Nat) : Bytes :=
  (Nat.toDigits 10 value).map fun char => UInt8.ofNat char.toNat

def dumpInteger : Int → Bytes
  | .ofNat value => dumpDigits value
  | .negSucc value => 45 :: dumpDigits (value + 1)

def dumpBoolean (value : Bool) : Bytes := bytesFromString (if value then "true" else "false")

/-- A hexadecimal digit. -/
def hexDigit (value : Nat) : UInt8 :=
  if value < 10 then UInt8.ofNat (48 + value) else UInt8.ofNat (87 + value)

/-- A byte of a string in its text. -/
def escapeByte (byte : UInt8) : Bytes :=
  if byte = 8 then [92, 98]
  else if byte = 9 then [92, 116]
  else if byte = 10 then [92, 110]
  else if byte = 12 then [92, 102]
  else if byte = 13 then [92, 114]
  else if byte = 34 then [92, 34]
  else if byte = 92 then [92, 92]
  else if byte < 32 then
    [92, 117, 48, 48, hexDigit (byte.toNat / 16), hexDigit (byte.toNat % 16)]
  else [byte]

def dumpString (value : Bytes) : Bytes := 34 :: (value.flatMap escapeByte ++ [34])

/-- What is used of the texts of strings. -/
structure StringDump (dump : Bytes → Bytes) : Prop where
  delimited : SelfDelimitingOn Set.univ dump
  quoted : ∀ value, ∃ rest, dump value = 34 :: rest

def isDigitByte (byte : UInt8) : Bool := 48 ≤ byte && byte ≤ 57

/-! ### Integers -/

theorem bounds_of_mem_toDigits {value : Nat} {char : Char}
    (mem : char ∈ Nat.toDigits 10 value) : 48 ≤ char.toNat ∧ char.toNat ≤ 57 :=
  Char.isDigit_iff_toNat.mp (Nat.isDigit_of_mem_toDigits (by decide) (by decide) mem)

theorem isDigitByte_of_mem_dumpDigits {value : Nat} {byte : UInt8}
    (mem : byte ∈ dumpDigits value) : isDigitByte byte = true := by
  obtain ⟨char, digit, rfl⟩ := mem_map.mp mem
  have bounds := bounds_of_mem_toDigits digit
  have small : char.toNat < 2 ^ 8 := by omega
  rw [isDigitByte, Bool.and_eq_true, decide_eq_true_eq, decide_eq_true_eq, UInt8.le_iff_toNat_le,
    UInt8.le_iff_toNat_le, UInt8.toNat_ofNat', Nat.mod_eq_of_lt small]
  exact bounds

theorem dumpDigits_ne_nil (value : Nat) : dumpDigits value ≠ [] :=
  fun empty => Nat.toDigits_ne_nil (map_eq_nil_iff.mp empty)

theorem dumpDigits_injective : Function.Injective dumpDigits := by
  intro first second same
  have read : ∀ value : Nat,
      ((dumpDigits value).map fun byte => Char.ofNat byte.toNat) = Nat.toDigits 10 value := by
    intro value
    rw [dumpDigits, map_map]
    refine (map_congr_left ?_).trans (map_id _)
    intro char mem
    have bounds := bounds_of_mem_toDigits mem
    have small : char.toNat < 2 ^ 8 := by omega
    rw [Function.comp_apply, UInt8.toNat_ofNat', Nat.mod_eq_of_lt small, Char.ofNat_toNat, id]
  have digits : Nat.toDigits 10 first = Nat.toDigits 10 second := by
    rw [← read first, same, read second]
  rw [← Nat.ofDigitChars_ten_toDigits (n := first), digits, Nat.ofDigitChars_ten_toDigits]

/-- The text of an integer begins with a digit or a minus sign. -/
theorem head_dumpInteger (value : Int) :
    ∃ byte rest, dumpInteger value = byte :: rest ∧ (byte = 45 ∨ isDigitByte byte = true) := by
  cases value with
  | ofNat value =>
    obtain ⟨byte, rest, text⟩ := exists_cons_of_ne_nil (dumpDigits_ne_nil value)
    have mem : byte ∈ dumpDigits value := text ▸ mem_cons_self
    exact ⟨byte, rest, text, Or.inr (isDigitByte_of_mem_dumpDigits mem)⟩
  | negSucc value => exact ⟨45, dumpDigits (value + 1), rfl, Or.inl rfl⟩

variable {rest more : Bytes}

theorem dumpDigits_append_inj {first second : Nat}
    (ends : ∀ byte ∈ rest.head?, isDigitByte byte = false)
    (ends' : ∀ byte ∈ more.head?, isDigitByte byte = false)
    (same : dumpDigits first ++ rest = dumpDigits second ++ more) :
    first = second ∧ rest = more := by
  obtain ⟨digits, rest⟩ := append_inj_of_head? (p := isDigitByte)
    (fun _ => isDigitByte_of_mem_dumpDigits) (fun _ => isDigitByte_of_mem_dumpDigits)
    ends ends' same
  exact ⟨dumpDigits_injective digits, rest⟩

/-- Two digits and a minus sign are different bytes. -/
theorem dumpDigits_append_ne (value : Nat) (rest more : Bytes) :
    dumpDigits value ++ rest ≠ 45 :: more := by
  intro same
  obtain ⟨byte, digits, text⟩ := exists_cons_of_ne_nil (dumpDigits_ne_nil value)
  have digit := isDigitByte_of_mem_dumpDigits (text ▸ mem_cons_self : byte ∈ dumpDigits value)
  rw [text, cons_append, cons.injEq] at same
  rw [same.1] at digit
  exact absurd digit (by decide)

theorem dumpInteger_append_inj {first second : Int}
    (ends : ∀ byte ∈ rest.head?, isDigitByte byte = false)
    (ends' : ∀ byte ∈ more.head?, isDigitByte byte = false)
    (same : dumpInteger first ++ rest = dumpInteger second ++ more) :
    first = second ∧ rest = more := by
  cases first with
  | ofNat first =>
    cases second with
    | ofNat second =>
      obtain ⟨rfl, tails⟩ := dumpDigits_append_inj ends ends' same
      exact ⟨rfl, tails⟩
    | negSucc second => exact absurd same (dumpDigits_append_ne first rest _)
  | negSucc first =>
    cases second with
    | ofNat second => exact absurd same.symm (dumpDigits_append_ne second more _)
    | negSucc second =>
      have digits : dumpDigits (first + 1) ++ rest = dumpDigits (second + 1) ++ more :=
        (cons.inj same).2
      obtain ⟨values, tails⟩ := dumpDigits_append_inj ends ends' digits
      exact ⟨congrArg Int.negSucc (Nat.succ.inj values), tails⟩

/-! ### Strings -/

/-- The value of a hexadecimal digit. -/
def hexValue (digit : UInt8) : UInt8 := if digit < 58 then digit - 48 else digit - 87

/-- The byte whose text this is. -/
def unescapeByte : Bytes → UInt8
  | [byte] => byte
  | [_, kind] =>
    if kind = 98 then 8
    else if kind = 116 then 9
    else if kind = 110 then 10
    else if kind = 102 then 12
    else if kind = 114 then 13
    else kind
  | [_, _, _, _, high, low] => hexValue high * 16 + hexValue low
  | _ => 0

/-- The length of the text of the first byte. -/
def escapeLength : Bytes → Nat
  | first :: second :: _ => if first = 92 then (if second = 117 then 6 else 2) else 1
  | _ => 1

theorem unescapeByte_escapeByte (byte : UInt8) : unescapeByte (escapeByte byte) = byte := by
  unfold escapeByte
  split
  · exact (‹byte = 8›).symm
  split
  · exact (‹byte = 9›).symm
  split
  · exact (‹byte = 10›).symm
  split
  · exact (‹byte = 12›).symm
  split
  · exact (‹byte = 13›).symm
  split
  · exact (‹byte = 34›).symm
  split
  · exact (‹byte = 92›).symm
  split
  · rename_i control
    have read : ∀ value : Fin 32, hexValue (hexDigit (value.val / 16)) * 16 +
        hexValue (hexDigit (value.val % 16)) = UInt8.ofNat value.val := by decide
    exact (read ⟨byte.toNat, UInt8.lt_iff_toNat_lt.mp control⟩).trans UInt8.ofNat_toNat
  · rfl

theorem escapeLength_append (byte : UInt8) (rest : Bytes) :
    escapeLength (escapeByte byte ++ rest) = (escapeByte byte).length := by
  unfold escapeByte
  iterate 8
    split
    · rfl
  rename_i other _
  cases rest with
  | nil => rfl
  | cons second rest => exact if_neg other

theorem escapeByte_append_ne (byte : UInt8) (rest more : Bytes) :
    escapeByte byte ++ rest ≠ 34 :: more := by
  have escaped : ∀ tail : Bytes, 92 :: tail ++ rest ≠ 34 :: more := fun _ same =>
    absurd (cons.inj same).1 (by decide)
  unfold escapeByte
  iterate 8
    split
    · exact escaped _
  rename_i other _ _
  exact fun same => other (cons.inj same).1

theorem selfDelimitingOn_escapeByte : SelfDelimitingOn Set.univ escapeByte := by
  intro first _ second _ rest more same
  have lengths : (escapeByte first).length = (escapeByte second).length := by
    rw [← escapeLength_append first rest, same, escapeLength_append]
  obtain ⟨texts, tails⟩ := append_inj same lengths
  refine ⟨?_, tails⟩
  rw [← unescapeByte_escapeByte first, texts, unescapeByte_escapeByte]

/-- **The text of a string can be told from what follows it.** -/
theorem dumpString_stringDump : StringDump dumpString where
  delimited := by
    have body := @SelfDelimitingOn.flatMap_stop _ _ _ _ selfDelimitingOn_escapeByte 34
      fun byte _ => escapeByte_append_ne byte
    intro first _ second _
    exact body.append_left [34] first (fun _ _ => Set.mem_univ _) second
      fun _ _ => Set.mem_univ _
  quoted value := ⟨value.flatMap escapeByte ++ [34], rfl⟩

end Rstream.Webtty.Cli
