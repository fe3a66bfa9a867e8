import Mathlib.Data.List.Forall2
import Rstream.Library.Bytes

/-!
# Concatenated fields

A record is serialised by writing its fields one after the other: words of four
bytes, strings and lists of words, the latter two behind a word with their length.
No separator is written, so the bytes determine the fields only because each field
says where it ends. Two sequences of fields of the same kinds with the same bytes
are therefore equal (`Field.encodeAll_injective`).
-/

namespace Rstream.Library

/-- A field of a serialised record. -/
inductive Field where
  | word (value : Nat)
  | text (bytes : List UInt8)
  | words (values : List Nat)
  deriving DecidableEq, Repr

/-- A word of four bytes. -/
abbrev word32 (value : Nat) : List UInt8 := bigEndian 4 value

namespace Field

/-- The bytes of a field. -/
def encode : Field → List UInt8
  | .word value => word32 value
  | .text bytes => word32 bytes.length ++ bytes
  | .words values => word32 values.length ++ values.flatMap word32

/-- The bytes of a sequence of fields. -/
def encodeAll (fields : List Field) : List UInt8 := fields.flatMap encode

/-- Two fields of the same kind. -/
def SameKind : Field → Field → Prop
  | .word _, .word _ => True
  | .text _, .text _ => True
  | .words _, .words _ => True
  | _, _ => False

/-- What a field says about itself fits into its words. -/
def Small : Field → Prop
  | .word value => value < 2 ^ 32
  | .text bytes => bytes.length < 2 ^ 32
  | .words values => values.length < 2 ^ 32 ∧ ∀ value ∈ values, value < 2 ^ 32

theorem word32_append_injective {first second : Nat} {rest more : List UInt8}
    (small : first < 2 ^ 32) (smaller : second < 2 ^ 32)
    (same : word32 first ++ rest = word32 second ++ more) : first = second ∧ rest = more := by
  have lengths : (word32 first).length = (word32 second).length := by
    rw [length_bigEndian, length_bigEndian]
  obtain ⟨words, rests⟩ := List.append_inj same lengths
  exact ⟨bigEndian_injective small smaller words, rests⟩

theorem words_append_injective {first second : List Nat} {rest more : List UInt8}
    (lengths : first.length = second.length) (small : ∀ value ∈ first, value < 2 ^ 32)
    (smaller : ∀ value ∈ second, value < 2 ^ 32)
    (same : first.flatMap word32 ++ rest = second.flatMap word32 ++ more) :
    first = second ∧ rest = more := by
  induction first generalizing second with
  | nil =>
    cases second with
    | nil => exact ⟨rfl, same⟩
    | cons value values => cases lengths
  | cons value values ih =>
    cases second with
    | nil => cases lengths
    | cons other others =>
      rw [List.flatMap_cons, List.flatMap_cons, List.append_assoc, List.append_assoc] at same
      obtain ⟨rfl, tails⟩ := word32_append_injective (small value List.mem_cons_self)
        (smaller other List.mem_cons_self) same
      obtain ⟨rfl, rests⟩ := ih (Nat.succ.inj lengths)
        (fun entry mem => small entry (List.mem_cons_of_mem _ mem))
        (fun entry mem => smaller entry (List.mem_cons_of_mem _ mem)) tails
      exact ⟨rfl, rests⟩

/-- A field ends where it says. -/
theorem encode_append_injective {first second : Field} {rest more : List UInt8}
    (kinds : first.SameKind second) (small : first.Small) (smaller : second.Small)
    (same : first.encode ++ rest = second.encode ++ more) : first = second ∧ rest = more := by
  cases first with
  | word value =>
    cases second with
    | word other =>
      obtain ⟨rfl, rests⟩ := word32_append_injective small smaller same
      exact ⟨rfl, rests⟩
    | text bytes | words values => exact kinds.elim
  | text bytes =>
    cases second with
    | word value | words values => exact kinds.elim
    | text others =>
      rw [encode, encode, List.append_assoc, List.append_assoc] at same
      obtain ⟨lengths, tails⟩ := word32_append_injective small smaller same
      obtain ⟨rfl, rests⟩ := List.append_inj tails lengths
      exact ⟨rfl, rests⟩
  | words values =>
    cases second with
    | word value | text bytes => exact kinds.elim
    | words others =>
      rw [encode, encode, List.append_assoc, List.append_assoc] at same
      obtain ⟨lengths, tails⟩ := word32_append_injective small.1 smaller.1 same
      obtain ⟨rfl, rests⟩ := words_append_injective lengths small.2 smaller.2 tails
      exact ⟨rfl, rests⟩

/-- **The bytes determine the fields**, given their kinds. -/
theorem encodeAll_injective {first second : List Field} (kinds : List.Forall₂ SameKind first second)
    (small : ∀ field ∈ first, field.Small) (smaller : ∀ field ∈ second, field.Small)
    (same : encodeAll first = encodeAll second) : first = second := by
  induction kinds with
  | nil => rfl
  | @cons field other fields others kind _ ih =>
    obtain ⟨rfl, tails⟩ := encode_append_injective kind (small field List.mem_cons_self)
      (smaller other List.mem_cons_self) same
    rw [ih (fun entry mem => small entry (List.mem_cons_of_mem _ mem))
      (fun entry mem => smaller entry (List.mem_cons_of_mem _ mem)) tails]

/-- The first field of two sequences with the same bytes, whatever follows. -/
theorem head_eq_of_encodeAll_eq {first second : Field} {fields others : List Field}
    (kind : first.SameKind second) (small : first.Small) (smaller : second.Small)
    (same : encodeAll (first :: fields) = encodeAll (second :: others)) : first = second :=
  (encode_append_injective kind small smaller same).1

end Field

end Rstream.Library
