import Mathlib.Data.List.Forall2
import Rstream.Library.Separators

/-!
# Escaped texts and queries

In an escaped text a byte stands for itself if it is unreserved, and two hexadecimal digits behind a
percent sign stand for the byte of their value. Every text is the meaning of one (`escapes_escape`).
A query is a list of keys and values between `&` and `=`, which escaped texts do not contain, so the
texts of a query are found again (`readQuery_write`).
-/

namespace Rstream.Library

/-! ## Escaped texts -/

/-- A byte that needs no escape in a URL. -/
def isUnreserved (byte : UInt8) : Bool :=
  (97 ≤ byte && byte ≤ 122) || (65 ≤ byte && byte ≤ 90) || (48 ≤ byte && byte ≤ 57) ||
    byte == 45 || byte == 46 || byte == 95 || byte == 126

/-- The value of a hexadecimal digit. -/
def escapeValue (byte : UInt8) : Option UInt8 :=
  if 48 ≤ byte ∧ byte ≤ 57 then some (byte - 48)
  else if 65 ≤ byte ∧ byte ≤ 70 then some (byte - 55)
  else if 97 ≤ byte ∧ byte ≤ 102 then some (byte - 87)
  else none

/-- **An escaped text and its meaning.** -/
inductive Escapes : List UInt8 → List UInt8 → Prop
  | nil : Escapes [] []
  | plain {byte : UInt8} {text meaning : List UInt8} (unreserved : isUnreserved byte = true)
      (rest : Escapes text meaning) : Escapes (byte :: text) (byte :: meaning)
  | escaped {first second high low : UInt8} {text meaning : List UInt8}
      (highDigit : escapeValue first = some high) (lowDigit : escapeValue second = some low)
      (rest : Escapes text meaning) :
      Escapes (37 :: first :: second :: text) ((16 * high + low) :: meaning)

/-- The meaning of a text, in which every percent sign begins an escape. -/
def unescape : List UInt8 → Option (List UInt8)
  | [] => some []
  | [byte] => if byte = 37 then none else some [byte]
  | [byte, next] => if byte = 37 then none else (unescape [next]).map (byte :: ·)
  | byte :: next :: other :: text =>
    if byte = 37 then do
      let high ← escapeValue next
      let low ← escapeValue other
      let meaning ← unescape text
      some ((16 * high + low) :: meaning)
    else (unescape (next :: other :: text)).map (byte :: ·)

variable {byte : UInt8} {text meaning : List UInt8}

theorem unescape_plain (other : byte ≠ 37) (text : List UInt8) :
    unescape (byte :: text) = (unescape text).map (byte :: ·) := by
  cases text with
  | nil => simp [unescape, other]
  | cons next text =>
    cases text with
    | nil => simp [unescape, other]
    | cons third text => rw [unescape, if_neg other]

/-- What contains no percent sign is its own meaning. -/
theorem unescape_append {start : List UInt8} (plain : 37 ∉ start) (text : List UInt8) :
    unescape (start ++ text) = (unescape text).map (start ++ ·) := by
  induction start with
  | nil => simp
  | cons byte start ih =>
    obtain ⟨other, plain⟩ : 37 ≠ byte ∧ 37 ∉ start := by simpa using plain
    rw [List.cons_append, unescape_plain other.symm, ih plain, Option.map_map]
    rfl

theorem unescape_of_escapes (escapes : Escapes text meaning) : unescape text = some meaning := by
  induction escapes with
  | nil => rfl
  | plain unreserved rest ih =>
    rename_i byte text meaning
    have other : byte ≠ 37 := by
      rintro rfl
      exact absurd unreserved (by decide)
    rw [unescape_plain other, ih, Option.map_some]
  | escaped highDigit lowDigit rest ih =>
    rw [unescape, if_pos rfl, highDigit, lowDigit, ih]
    rfl

theorem isUnreserved_of_escapeValue {value : UInt8} (digit : escapeValue byte = some value) :
    isUnreserved byte = true := by
  unfold escapeValue at digit
  unfold isUnreserved
  split at digit
  · grind
  · split at digit
    · grind
    · split at digit
      · grind
      · cases digit

theorem Escapes.mem (escapes : Escapes text meaning) (mem : byte ∈ text) :
    byte = 37 ∨ isUnreserved byte = true := by
  induction escapes with
  | nil => cases mem
  | plain unreserved rest ih =>
    obtain rfl | later := List.mem_cons.mp mem
    · exact .inr unreserved
    · exact ih later
  | escaped highDigit lowDigit rest ih =>
    obtain rfl | later := List.mem_cons.mp mem
    · exact .inl rfl
    · obtain rfl | later := List.mem_cons.mp later
      · exact .inr (isUnreserved_of_escapeValue highDigit)
      · obtain rfl | later := List.mem_cons.mp later
        · exact .inr (isUnreserved_of_escapeValue lowDigit)
        · exact ih later

theorem Escapes.notMem (escapes : Escapes text meaning) (other : byte ≠ 37)
    (reserved : isUnreserved byte = false) : byte ∉ text := by
  intro mem
  obtain same | unreserved := escapes.mem mem
  · exact other same
  · rw [reserved] at unreserved
    cases unreserved

theorem escapes_of_unreserved (unreserved : ∀ byte ∈ text, isUnreserved byte = true) :
    Escapes text text := by
  induction text with
  | nil => exact .nil
  | cons byte text ih =>
    rw [List.forall_mem_cons] at unreserved
    exact .plain unreserved.1 (ih unreserved.2)

/-! ## Escaping -/

def escapeDigit (value : UInt8) : UInt8 := if value < 10 then 48 + value else 55 + value

/-- A byte, escaped unless it is unreserved. -/
def escapeByte (byte : UInt8) : List UInt8 :=
  if isUnreserved byte then [byte]
  else [37, escapeDigit (byte >>> 4), escapeDigit (byte &&& 15)]

/-- A text with its reserved bytes escaped. -/
def escape (text : List UInt8) : List UInt8 := text.flatMap escapeByte

theorem escapeValue_escapeDigit (value : UInt8) (small : value < 16) :
    escapeValue (escapeDigit value) = some value := by
  have table : ∀ value : Fin 16,
      escapeValue (escapeDigit (UInt8.ofNat value)) = some (UInt8.ofNat value) := by decide
  have found := table ⟨value.toNat, UInt8.lt_iff_toNat_lt.mp small⟩
  rwa [UInt8.ofNat_toNat] at found

theorem nibbles (byte : UInt8) : byte >>> 4 < 16 ∧ byte &&& 15 < 16 ∧
    (16 : UInt8) * (byte >>> 4) + (byte &&& 15) = byte := by
  have high : (byte >>> 4).toNat = byte.toNat / 16 := by
    rw [UInt8.toNat_shiftRight]
    exact Nat.shiftRight_eq_div_pow byte.toNat 4
  have low : (byte &&& 15).toNat = byte.toNat % 16 := by
    rw [UInt8.toNat_and]
    exact Nat.and_two_pow_sub_one_eq_mod byte.toNat 4
  have small := byte.toNat_lt
  have whole : ((16 : UInt8) * (byte >>> 4) + (byte &&& 15)).toNat = byte.toNat := by
    have sixteen : (16 : UInt8).toNat = 16 := rfl
    rw [UInt8.toNat_add, UInt8.toNat_mul, high, low, sixteen]
    omega
  refine ⟨UInt8.lt_iff_toNat_lt.mpr ?_, UInt8.lt_iff_toNat_lt.mpr ?_, UInt8.toNat_inj.mp whole⟩
  · rw [high]
    exact Nat.div_lt_of_lt_mul small
  · rw [low]
    exact Nat.mod_lt _ (by decide)

/-- **What is written for a text means the text.** -/
theorem escapes_escape (text : List UInt8) : Escapes (escape text) text := by
  induction text with
  | nil => exact .nil
  | cons byte text ih =>
    rw [escape, List.flatMap_cons, ← escape, escapeByte]
    split
    · rename_i unreserved
      exact .plain unreserved ih
    · obtain ⟨high, low, whole⟩ := nibbles byte
      have escaped :=
        Escapes.escaped (escapeValue_escapeDigit _ high) (escapeValue_escapeDigit _ low) ih
      rw [whole] at escaped
      exact escaped

/-! ## Queries -/

/-- A key and its value. -/
def writeItem (item : List UInt8 × List UInt8) : List UInt8 := paste 61 item.1 (some item.2)

/-- Keys and values, in their order. -/
def writeQuery (items : List (List UInt8 × List UInt8)) : List UInt8 :=
  [38].intercalate (items.map writeItem)

/-- The meaning of a key and its value, if it has one. -/
def readItem (piece : List UInt8) : Option (List UInt8 × Option (List UInt8)) := do
  let key ← unescape (cut 61 piece).1
  match (cut 61 piece).2 with
  | none => some (key, none)
  | some text => do
      let value ← unescape text
      some (key, some value)

/-- The items of a query. -/
def readQuery (query : List UInt8) : Option (List (List UInt8 × Option (List UInt8))) :=
  (query.splitOn 38).mapM readItem

/-- An item of escaped texts, and what it means. -/
def EscapesItem (text meaning : List UInt8 × List UInt8) : Prop :=
  Escapes text.1 meaning.1 ∧ Escapes text.2 meaning.2

theorem readItem_write {text meaning : List UInt8 × List UInt8} (escapes : EscapesItem text meaning) :
    readItem (writeItem text) = some (meaning.1, some meaning.2) := by
  have absent : (61 : UInt8) ∉ text.1 := escapes.1.notMem (by decide) (by decide)
  rw [readItem, writeItem, cut_paste absent, unescape_of_escapes escapes.1]
  show (do let value ← unescape text.2; some (meaning.1, some value)) = _
  rw [unescape_of_escapes escapes.2]
  rfl

theorem ampersand_notMem_writeItem {text meaning : List UInt8 × List UInt8}
    (escapes : EscapesItem text meaning) : (38 : UInt8) ∉ writeItem text := by
  rw [writeItem, paste, Option.elim_some, List.mem_append, List.mem_cons, not_or, not_or]
  exact ⟨escapes.1.notMem (by decide) (by decide), by decide,
    escapes.2.notMem (by decide) (by decide)⟩

theorem ampersand_notMem_pieces {texts meanings : List (List UInt8 × List UInt8)}
    (escapes : List.Forall₂ EscapesItem texts meanings) :
    ∀ piece ∈ texts.map writeItem, (38 : UInt8) ∉ piece := by
  induction escapes with
  | nil => exact fun _ mem => absurd mem List.not_mem_nil
  | cons item rest ih =>
    rw [List.map_cons, List.forall_mem_cons]
    exact ⟨ampersand_notMem_writeItem item, ih⟩

/-- **The items of a query are read again.** -/
theorem readQuery_write {texts meanings : List (List UInt8 × List UInt8)} (some_ : texts ≠ [])
    (escapes : List.Forall₂ EscapesItem texts meanings) :
    readQuery (writeQuery texts) =
      some (meanings.map fun meaning => (meaning.1, some meaning.2)) := by
  have pieces : texts.map writeItem ≠ [] := by rwa [Ne, List.map_eq_nil_iff]
  rw [readQuery, writeQuery,
    List.splitOn_intercalate 38 (ampersand_notMem_pieces escapes) pieces]
  clear pieces some_
  induction escapes with
  | nil => rfl
  | cons item rest ih =>
    rw [List.map_cons, List.mapM_cons, readItem_write item, ih]
    rfl

theorem readQuery_append (first rest : List UInt8) :
    readQuery (first ++ 38 :: rest) =
      (readQuery first).bind fun items => (readQuery rest).map (items ++ ·) := by
  rw [readQuery, List.splitOn_append_cons_self, List.mapM_append]
  show ((readQuery first).bind fun items => (readQuery rest).bind fun more =>
    some (items ++ more)) = _
  congr 1
  funext items
  cases readQuery rest <;> rfl

theorem length_splitOn (sep : UInt8) (text : List UInt8) :
    (text.splitOn sep).length = text.count sep + 1 := by
  induction text with
  | nil => rfl
  | cons byte text ih =>
    rw [List.splitOn_cons_eq_if_modifyHead, List.count_cons]
    split
    · rw [List.length_cons, ih]
    · rw [List.length_modifyHead, ih]

/-- A query has one item more than separators. -/
theorem length_readQuery {query : List UInt8} {items : List (List UInt8 × Option (List UInt8))}
    (read : readQuery query = some items) : items.length = query.count 38 + 1 := by
  rw [← length_splitOn]
  rw [readQuery] at read
  generalize query.splitOn 38 = pieces at read
  induction pieces generalizing items with
  | nil =>
    cases read
    rfl
  | cons piece pieces ih =>
    rw [List.mapM_cons] at read
    obtain ⟨item, -, read⟩ := Option.bind_eq_some_iff.mp read
    obtain ⟨rest, more, read⟩ := Option.bind_eq_some_iff.mp read
    cases read
    rw [List.length_cons, List.length_cons, ih more]

end Rstream.Library
