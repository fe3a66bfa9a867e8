import Rstream.Webtty.Cli.Json
import Rstream.Library.Results

/-!
# Canonical JSON

What is signed of a credential is the text of a JSON value without spaces, with the members of an
object in the order of their keys. Members that are null are not written; null elements of an array
are. The text tells two values apart unless they agree when their null members are dropped
(`workspaceCanonicalJson_injective`).
-/

namespace Rstream.Webtty.Cli

open Library List

/-! ## The source -/

section Source

variable (dump : Bytes → Bytes)

mutual

/-- `workspace_canonical_json`, with the text of the exception. -/
def workspaceCanonicalJson : Json → Except String Bytes
  | .null => .ok (bytesFromString "null")
  | .boolean value => .ok (dumpBoolean value)
  | .integer value => .ok (dumpInteger value)
  | .float _ =>
    .error "workspace-managed WebTTY credential contains an unsupported JSON number"
  | .string value => .ok (dump value)
  | .array elements => do
      let out ← canonicalElements true elements
      .ok (91 :: (out ++ [93]))
  | .object members => do
      let out ← canonicalMembers true members
      .ok (123 :: (out ++ [125]))

/-- The loop over the elements of an array. -/
def canonicalElements (first : Bool) : List Json → Except String Bytes
  | [] => .ok []
  | value :: rest => do
      let text ← workspaceCanonicalJson value
      let out ← canonicalElements false rest
      .ok ((if first then [] else [44]) ++ (text ++ out))

/-- The loop over the members of an object, which leaves `first` alone when it skips a member. -/
def canonicalMembers (first : Bool) : List (Bytes × Json) → Except String Bytes
  | [] => .ok []
  | (key, value) :: rest =>
    if value.isNull then canonicalMembers first rest
    else do
      let text ← workspaceCanonicalJson value
      let out ← canonicalMembers false rest
      .ok ((if first then [] else [44]) ++ (dump key ++ 58 :: (text ++ out)))

end

end Source

/-! ## Null members -/

namespace Json

mutual

/-- A value without the null members of its objects. -/
def dropNulls : Json → Json
  | null => null
  | boolean value => boolean value
  | integer value => integer value
  | float bits => float bits
  | string value => string value
  | array elements => array (dropElements elements)
  | object members => object (dropMembers members)

def dropElements : List Json → List Json
  | [] => []
  | value :: rest => value.dropNulls :: dropElements rest

def dropMembers : List (Bytes × Json) → List (Bytes × Json)
  | [] => []
  | (key, value) :: rest =>
    if value.isNull then dropMembers rest else (key, value.dropNulls) :: dropMembers rest

end

/-- Every element of an array is kept, also a null one. -/
theorem dropElements_eq_map (elements : List Json) :
    dropElements elements = elements.map dropNulls := by
  induction elements with
  | nil => rfl
  | cons value rest ih => rw [dropElements, ih, map_cons]

@[simp] theorem isNull_dropNulls (value : Json) : value.dropNulls.isNull = value.isNull := by
  cases value <;> rfl

mutual

/-- No float is in the value. -/
def Plain : Json → Prop
  | null => True
  | boolean _ => True
  | integer _ => True
  | float _ => False
  | string _ => True
  | array elements => PlainElements elements
  | object members => PlainMembers members

def PlainElements : List Json → Prop
  | [] => True
  | value :: rest => value.Plain ∧ PlainElements rest

def PlainMembers : List (Bytes × Json) → Prop
  | [] => True
  | (_, value) :: rest => value.Plain ∧ PlainMembers rest

end

mutual

/-- No member is null. -/
def Dense : Json → Prop
  | null => True
  | boolean _ => True
  | integer _ => True
  | float _ => True
  | string _ => True
  | array elements => DenseElements elements
  | object members => DenseMembers members

def DenseElements : List Json → Prop
  | [] => True
  | value :: rest => value.Dense ∧ DenseElements rest

def DenseMembers : List (Bytes × Json) → Prop
  | [] => True
  | (_, value) :: rest => value.isNull = false ∧ value.Dense ∧ DenseMembers rest

end

mutual

theorem dense_dropNulls : ∀ value : Json, value.dropNulls.Dense
  | null => trivial
  | boolean _ => trivial
  | integer _ => trivial
  | float _ => trivial
  | string _ => trivial
  | array elements => denseElements_dropElements elements
  | object members => denseMembers_dropMembers members

theorem denseElements_dropElements : ∀ elements, DenseElements (dropElements elements)
  | [] => trivial
  | value :: rest => ⟨dense_dropNulls value, denseElements_dropElements rest⟩

theorem denseMembers_dropMembers : ∀ members, DenseMembers (dropMembers members)
  | [] => trivial
  | (key, value) :: rest => by
      rw [dropMembers]
      split
      · exact denseMembers_dropMembers rest
      · rename_i present
        refine ⟨?_, dense_dropNulls value, denseMembers_dropMembers rest⟩
        rw [isNull_dropNulls]
        exact Bool.eq_false_iff.mpr present

end

end Json

section

variable {dump : Bytes → Bytes}

mutual

/-- Null members are not written, so dropping them changes nothing. -/
theorem workspaceCanonicalJson_dropNulls : ∀ value : Json,
    workspaceCanonicalJson dump value.dropNulls = workspaceCanonicalJson dump value
  | .null => rfl
  | .boolean _ => rfl
  | .integer _ => rfl
  | .float _ => rfl
  | .string _ => rfl
  | .array elements => by
      rw [Json.dropNulls, workspaceCanonicalJson, workspaceCanonicalJson,
        canonicalElements_dropElements true elements]
  | .object members => by
      rw [Json.dropNulls, workspaceCanonicalJson, workspaceCanonicalJson,
        canonicalMembers_dropMembers true members]

theorem canonicalElements_dropElements : ∀ first elements,
    canonicalElements dump first (Json.dropElements elements) =
      canonicalElements dump first elements
  | _, [] => rfl
  | first, value :: rest => by
      rw [Json.dropElements, canonicalElements, canonicalElements,
        workspaceCanonicalJson_dropNulls value, canonicalElements_dropElements false rest]

theorem canonicalMembers_dropMembers : ∀ first members,
    canonicalMembers dump first (Json.dropMembers members) =
      canonicalMembers dump first members
  | _, [] => rfl
  | first, (key, value) :: rest => by
      rw [Json.dropMembers, canonicalMembers]
      split
      · exact canonicalMembers_dropMembers first rest
      · rename_i present
        rw [canonicalMembers, Json.isNull_dropNulls, if_neg present,
          workspaceCanonicalJson_dropNulls value, canonicalMembers_dropMembers false rest]

end

mutual

/-- A value without floats has a text. -/
theorem workspaceCanonicalJson_plain : ∀ value : Json, value.Plain →
    ∃ text, workspaceCanonicalJson dump value = .ok text
  | .null, _ => ⟨_, rfl⟩
  | .boolean _, _ => ⟨_, rfl⟩
  | .integer _, _ => ⟨_, rfl⟩
  | .float _, plain => plain.elim
  | .string _, _ => ⟨_, rfl⟩
  | .array elements, plain => by
      obtain ⟨out, written⟩ := canonicalElements_plain true elements plain
      exact ⟨_, by rw [workspaceCanonicalJson, written, ok_bind]⟩
  | .object members, plain => by
      obtain ⟨out, written⟩ := canonicalMembers_plain true members plain
      exact ⟨_, by rw [workspaceCanonicalJson, written, ok_bind]⟩

theorem canonicalElements_plain : ∀ first elements, Json.PlainElements elements →
    ∃ out, canonicalElements dump first elements = .ok out
  | _, [], _ => ⟨_, rfl⟩
  | _, value :: rest, ⟨plain, plains⟩ => by
      obtain ⟨text, written⟩ := workspaceCanonicalJson_plain value plain
      obtain ⟨out, written'⟩ := canonicalElements_plain false rest plains
      exact ⟨_, by rw [canonicalElements, written, written', ok_bind, ok_bind]⟩

theorem canonicalMembers_plain : ∀ first members, Json.PlainMembers members →
    ∃ out, canonicalMembers dump first members = .ok out
  | _, [], _ => ⟨_, rfl⟩
  | first, (key, value) :: rest, ⟨plain, plains⟩ => by
      rw [canonicalMembers]
      split
      · exact canonicalMembers_plain first rest plains
      · obtain ⟨text, written⟩ := workspaceCanonicalJson_plain value plain
        obtain ⟨out, written'⟩ := canonicalMembers_plain false rest plains
        exact ⟨_, by rw [written, written', ok_bind, ok_bind]⟩

end

/-! ## Reading a text back -/

/-- The kind of a value. -/
inductive Kind where
  | null | boolean (value : Bool) | integer | string | array | object
  deriving DecidableEq

/-- The kind of a value with a text. -/
def Json.kind : Json → Option Kind
  | .null => some .null
  | .boolean value => some (.boolean value)
  | .integer _ => some .integer
  | .float _ => none
  | .string _ => some .string
  | .array _ => some .array
  | .object _ => some .object

/-- The kind of the value whose text begins with a byte. -/
def kindOfByte (byte : UInt8) : Option Kind :=
  if byte = 110 then some .null
  else if byte = 116 then some (.boolean true)
  else if byte = 102 then some (.boolean false)
  else if byte = 45 ∨ isDigitByte byte = true then some .integer
  else if byte = 34 then some .string
  else if byte = 91 then some .array
  else if byte = 123 then some .object
  else none

variable {byte : UInt8} {value : Json} {text out : Bytes} {rest : List (Bytes × Json)}
  {first : Bool}

theorem kindOfByte_integer (begins : byte = 45 ∨ isDigitByte byte = true) :
    kindOfByte byte = some .integer := by
  have small : byte ≤ 57 := by
    rcases begins with rfl | digit
    · decide
    · rw [isDigitByte, Bool.and_eq_true, decide_eq_true_eq, decide_eq_true_eq] at digit
      exact digit.2
  have other : ∀ letter : UInt8, 57 < letter → byte ≠ letter := fun letter large same =>
    UInt8.not_le.mpr large (same ▸ small)
  rw [kindOfByte, if_neg (other _ (by decide)), if_neg (other _ (by decide)),
    if_neg (other _ (by decide)), if_pos begins]

/-- What follows a value does not begin with a digit. -/
def Ends (rest : Bytes) : Prop := ∀ byte ∈ rest.head?, isDigitByte byte = false

theorem ends_cons (other : isDigitByte byte = false) (rest : Bytes) : Ends (byte :: rest) := by
  intro first mem
  rw [head?_cons, Option.mem_some_iff] at mem
  exact mem ▸ other

theorem kind_of_text (dumps : StringDump dump)
    (written : workspaceCanonicalJson dump value = .ok text) :
    ∃ byte rest kind, text = byte :: rest ∧ value.kind = some kind ∧
      kindOfByte byte = some kind := by
  cases value with
  | null =>
    obtain rfl := Except.ok.inj written
    exact ⟨_, _, _, rfl, rfl, rfl⟩
  | boolean value =>
    obtain rfl := Except.ok.inj written
    cases value with
    | false | true => exact ⟨_, _, _, rfl, rfl, rfl⟩
  | integer value =>
    obtain rfl := Except.ok.inj written
    obtain ⟨byte, rest, text, begins⟩ := head_dumpInteger value
    exact ⟨byte, rest, _, text, rfl, kindOfByte_integer begins⟩
  | float bits => cases written
  | string value =>
    obtain rfl := Except.ok.inj written
    obtain ⟨rest, text⟩ := dumps.quoted value
    exact ⟨_, rest, _, text, rfl, rfl⟩
  | array elements | object members =>
    rw [workspaceCanonicalJson, bind_eq_ok] at written
    obtain ⟨out, -, written⟩ := written
    obtain rfl := Except.ok.inj written
    exact ⟨_, _, _, rfl, rfl, rfl⟩

theorem text_append_ne (dumps : StringDump dump)
    (written : workspaceCanonicalJson dump value = .ok text) (foreign : kindOfByte byte = none)
    (rest more : Bytes) : text ++ rest ≠ byte :: more := by
  intro same
  obtain ⟨first, tail, kind, rfl, -, known⟩ := kind_of_text dumps written
  rw [cons_append, cons.injEq] at same
  rw [same.1, foreign] at known
  cases known

/-- The elements after the first one begin with a comma. -/
theorem canonicalElements_ends {rest : List Json}
    (written : canonicalElements dump false rest = .ok out) (more : Bytes) :
    Ends (out ++ 93 :: more) := by
  cases rest with
  | nil =>
    obtain rfl := Except.ok.inj written
    exact ends_cons rfl _
  | cons value rest =>
    simp only [canonicalElements, bind_eq_ok] at written
    obtain ⟨text, -, after, -, written⟩ := written
    obtain rfl := Except.ok.inj written
    exact ends_cons rfl _

theorem canonicalMembers_ends (written : canonicalMembers dump false rest = .ok out) (more : Bytes)
    :
    Ends (out ++ 125 :: more) := by
  induction rest with
  | nil =>
    obtain rfl := Except.ok.inj written
    exact ends_cons rfl _
  | cons member rest ih =>
    obtain ⟨key, value⟩ := member
    rw [canonicalMembers] at written
    split at written
    · exact ih written
    · simp only [bind_eq_ok] at written
      obtain ⟨text, -, after, -, written⟩ := written
      obtain rfl := Except.ok.inj written
      exact ends_cons rfl _

/-- An array with elements does not end before the first one. -/
theorem canonicalElements_cons_ne (dumps : StringDump dump) {rest : List Json}
    (written : canonicalElements dump first (value :: rest) = .ok out) (after more : Bytes) :
    out ++ 93 :: more ≠ 93 :: after := by
  intro same
  simp only [canonicalElements, bind_eq_ok] at written
  obtain ⟨text, inner, loop, -, written⟩ := written
  obtain rfl := Except.ok.inj written
  cases first with
  | false => cases same
  | true =>
    simp only [append_assoc] at same
    exact text_append_ne dumps inner rfl _ _ same

theorem canonicalMembers_cons {key : Bytes} (present : value.isNull = false)
    (written : canonicalMembers dump first ((key, value) :: rest) = .ok out) :
    ∃ text after, workspaceCanonicalJson dump value = .ok text ∧
      canonicalMembers dump false rest = .ok after ∧
        out = (if first then [] else [44]) ++ (dump key ++ 58 :: (text ++ after)) := by
  rw [canonicalMembers, if_neg (Bool.eq_false_iff.mp present), bind_eq_ok] at written
  obtain ⟨text, inner, written⟩ := written
  rw [bind_eq_ok] at written
  obtain ⟨after, loop, written⟩ := written
  exact ⟨text, after, inner, loop, (Except.ok.inj written).symm⟩

theorem canonicalMembers_cons_ne (dumps : StringDump dump) {key : Bytes}
    (present : value.isNull = false)
    (written : canonicalMembers dump first ((key, value) :: rest) = .ok out) (after more : Bytes) :
    out ++ 125 :: more ≠ 125 :: after := by
  intro same
  obtain ⟨text, loop, -, -, rfl⟩ := canonicalMembers_cons present written
  obtain ⟨tail, quoted⟩ := dumps.quoted key
  cases first with
  | false => cases same
  | true =>
    simp only [quoted] at same
    cases same

mutual

/-- **A text is read back**, by the structure of the value: what follows is told from it. -/
theorem workspaceCanonicalJson_append_inj (dumps : StringDump dump) :
    ∀ (value : Json) {other : Json} {text text' rest more : Bytes}, value.Dense → other.Dense →
      workspaceCanonicalJson dump value = .ok text →
      workspaceCanonicalJson dump other = .ok text' → Ends rest → Ends more →
      text ++ rest = text' ++ more → value = other ∧ rest = more := by
  intro value other text text' rest more dense dense' written written' ends ends' same
  obtain ⟨byte, tail, kind, begins, known, ofByte⟩ := kind_of_text dumps written
  obtain ⟨byte', tail', kind', begins', known', ofByte'⟩ := kind_of_text dumps written'
  have kinds : value.kind = other.kind := by
    rw [begins, begins', cons_append, cons_append, cons.injEq] at same
    rw [known, known', ← ofByte, ← ofByte', same.1]
  match value, other with
  | .null, .null =>
    obtain rfl := Except.ok.inj written
    obtain rfl := Except.ok.inj written'
    exact ⟨rfl, append_cancel_left same⟩
  | .boolean value, .boolean other =>
    obtain rfl : value = other := by simpa [Json.kind] using kinds
    obtain rfl := Except.ok.inj written
    obtain rfl := Except.ok.inj written'
    exact ⟨rfl, append_cancel_left same⟩
  | .integer value, .integer other =>
    obtain rfl := Except.ok.inj written
    obtain rfl := Except.ok.inj written'
    obtain ⟨rfl, tails⟩ := dumpInteger_append_inj ends ends' same
    exact ⟨rfl, tails⟩
  | .string value, .string other =>
    obtain rfl := Except.ok.inj written
    obtain rfl := Except.ok.inj written'
    obtain ⟨rfl, tails⟩ := dumps.delimited value (Set.mem_univ _) other (Set.mem_univ _) _ _ same
    exact ⟨rfl, tails⟩
  | .array elements, .array others =>
    rw [workspaceCanonicalJson, bind_eq_ok] at written written'
    obtain ⟨out, inner, written⟩ := written
    obtain ⟨out', inner', written'⟩ := written'
    obtain rfl := Except.ok.inj written
    obtain rfl := Except.ok.inj written'
    have bodies : out ++ 93 :: rest = out' ++ 93 :: more := by
      simpa using same
    obtain ⟨rfl, tails⟩ := canonicalElements_append_inj dumps true elements dense dense' inner
      inner' bodies
    exact ⟨rfl, tails⟩
  | .object members, .object others =>
    rw [workspaceCanonicalJson, bind_eq_ok] at written written'
    obtain ⟨out, inner, written⟩ := written
    obtain ⟨out', inner', written'⟩ := written'
    obtain rfl := Except.ok.inj written
    obtain rfl := Except.ok.inj written'
    have bodies : out ++ 125 :: rest = out' ++ 125 :: more := by
      simpa using same
    obtain ⟨rfl, tails⟩ := canonicalMembers_append_inj dumps true members dense dense' inner
      inner' bodies
    exact ⟨rfl, tails⟩

theorem canonicalElements_append_inj (dumps : StringDump dump) :
    ∀ (first : Bool) (elements : List Json) {others : List Json} {out out' rest more : Bytes},
      Json.DenseElements elements → Json.DenseElements others →
      canonicalElements dump first elements = .ok out →
      canonicalElements dump first others = .ok out' →
      out ++ 93 :: rest = out' ++ 93 :: more → elements = others ∧ rest = more := by
  intro first elements others out out' rest more dense dense' written written' same
  match elements, others with
  | [], [] =>
    obtain rfl := Except.ok.inj written
    obtain rfl := Except.ok.inj written'
    exact ⟨rfl, (cons.inj same).2⟩
  | [], other :: others =>
    obtain rfl := Except.ok.inj written
    exact absurd same.symm (canonicalElements_cons_ne dumps written' rest more)
  | value :: elements, [] =>
    obtain rfl := Except.ok.inj written'
    exact absurd same (canonicalElements_cons_ne dumps written more rest)
  | value :: elements, other :: others =>
    simp only [canonicalElements, bind_eq_ok] at written written'
    obtain ⟨text, inner, after, loop, written⟩ := written
    obtain ⟨text', inner', after', loop', written'⟩ := written'
    obtain rfl := Except.ok.inj written
    obtain rfl := Except.ok.inj written'
    have bodies : text ++ (after ++ 93 :: rest) = text' ++ (after' ++ 93 :: more) := by
      simp only [append_assoc] at same
      exact append_cancel_left same
    obtain ⟨rfl, tails⟩ := workspaceCanonicalJson_append_inj dumps value dense.1 dense'.1 inner
      inner' (canonicalElements_ends loop _) (canonicalElements_ends loop' _) bodies
    obtain ⟨rfl, ended⟩ := canonicalElements_append_inj dumps false elements dense.2 dense'.2
      loop loop' tails
    exact ⟨rfl, ended⟩

theorem canonicalMembers_append_inj (dumps : StringDump dump) :
    ∀ (first : Bool) (members : List (Bytes × Json)) {others : List (Bytes × Json)}
      {out out' rest more : Bytes},
      Json.DenseMembers members → Json.DenseMembers others →
      canonicalMembers dump first members = .ok out →
      canonicalMembers dump first others = .ok out' →
      out ++ 125 :: rest = out' ++ 125 :: more → members = others ∧ rest = more := by
  intro first members others out out' rest more dense dense' written written' same
  match members, others with
  | [], [] =>
    obtain rfl := Except.ok.inj written
    obtain rfl := Except.ok.inj written'
    exact ⟨rfl, (cons.inj same).2⟩
  | [], (key', other) :: others =>
    obtain rfl := Except.ok.inj written
    exact absurd same.symm (canonicalMembers_cons_ne dumps dense'.1 written' rest more)
  | (key, value) :: members, [] =>
    obtain rfl := Except.ok.inj written'
    exact absurd same (canonicalMembers_cons_ne dumps dense.1 written more rest)
  | (key, value) :: members, (key', other) :: others =>
    obtain ⟨text, after, inner, loop, rfl⟩ := canonicalMembers_cons dense.1 written
    obtain ⟨text', after', inner', loop', rfl⟩ := canonicalMembers_cons dense'.1 written'
    have bodies : dump key ++ 58 :: (text ++ (after ++ 125 :: rest)) =
        dump key' ++ 58 :: (text' ++ (after' ++ 125 :: more)) := by
      simp only [append_assoc, cons_append] at same
      exact append_cancel_left same
    obtain ⟨rfl, values⟩ := dumps.delimited key (Set.mem_univ _) key' (Set.mem_univ _) _ _ bodies
    obtain ⟨rfl, tails⟩ := workspaceCanonicalJson_append_inj dumps value dense.2.1 dense'.2.1
      inner inner' (canonicalMembers_ends loop _) (canonicalMembers_ends loop' _)
      (cons.inj values).2
    obtain ⟨rfl, ended⟩ := canonicalMembers_append_inj dumps false members dense.2.2 dense'.2.2
      loop loop' tails
    exact ⟨rfl, ended⟩

end

/-! ## Injectivity -/

theorem dropNulls_eq_of_text (dumps : StringDump dump) {other : Json}
    (written : workspaceCanonicalJson dump value = .ok text)
    (written' : workspaceCanonicalJson dump other = .ok text) :
    value.dropNulls = other.dropNulls := by
  rw [← workspaceCanonicalJson_dropNulls] at written written'
  have stops : Ends [] := fun byte mem => by cases mem
  exact (workspaceCanonicalJson_append_inj dumps _ (Json.dense_dropNulls value)
    (Json.dense_dropNulls other) written written' stops stops rfl).1

/-- **Canonical JSON is injective modulo null members.** Every value without floats has a text, and
two of them have the same one exactly when they agree without their null members. Arrays agree
element by element, null elements included, and the members of an object may have been inserted in
any order. -/
theorem workspaceCanonicalJson_injective (dumps : StringDump dump) :
    (∀ value other : Json, value.Plain → other.Plain →
      (∃ text, workspaceCanonicalJson dump value = .ok text) ∧
        (workspaceCanonicalJson dump value = workspaceCanonicalJson dump other ↔
          value.dropNulls = other.dropNulls)) ∧
    (∀ elements others : List Json, (Json.array elements).Plain → (Json.array others).Plain →
      (workspaceCanonicalJson dump (.array elements) =
          workspaceCanonicalJson dump (.array others) ↔
        elements.map Json.dropNulls = others.map Json.dropNulls)) ∧
    (∀ members others : List (Bytes × Json), (members.map Prod.fst).Nodup →
      members.Perm others →
        workspaceCanonicalJson dump (Json.objectOf members) =
          workspaceCanonicalJson dump (Json.objectOf others)) := by
  have same_iff : ∀ value other : Json, value.Plain → other.Plain →
      (workspaceCanonicalJson dump value = workspaceCanonicalJson dump other ↔
        value.dropNulls = other.dropNulls) := by
    intro value other plain plain'
    obtain ⟨text, written⟩ := @workspaceCanonicalJson_plain dump value plain
    constructor
    · intro same
      exact dropNulls_eq_of_text dumps written (same.symm.trans written)
    · intro same
      rw [← workspaceCanonicalJson_dropNulls value, same, workspaceCanonicalJson_dropNulls]
  refine ⟨?_, ?_, ?_⟩
  · intro value other plain plain'
    exact ⟨workspaceCanonicalJson_plain value plain, same_iff value other plain plain'⟩
  · intro elements others plain plain'
    rw [same_iff _ _ plain plain', Json.dropNulls, Json.dropNulls, Json.dropElements_eq_map,
      Json.dropElements_eq_map, Json.array.injEq]
  · intro members others distinct perm
    rw [Json.objectOf_perm distinct perm]

end

/-- The texts of strings that the source writes are as they have to be. -/
theorem workspaceCanonicalJson_injective_dumpString :
    workspaceCanonicalJson dumpString (.array [.null, .object [([97], .null), ([98], .integer 1)]]) =
        workspaceCanonicalJson dumpString (.array [.null, .object [([98], .integer 1)]]) ∧
      workspaceCanonicalJson dumpString (.array [.null]) ≠
        workspaceCanonicalJson dumpString (.array []) := by
  obtain ⟨same_iff, arrays, -⟩ := workspaceCanonicalJson_injective dumpString_stringDump
  refine ⟨?_, ?_⟩
  · refine (same_iff _ _ ?_ ?_).2.mpr rfl
    · exact ⟨trivial, ⟨trivial, trivial, trivial⟩, trivial⟩
    · exact ⟨trivial, ⟨trivial, trivial⟩, trivial⟩
  · intro same
    have lists := (arrays [.null] [] ⟨trivial, trivial⟩ trivial).mp same
    cases lists

end Rstream.Webtty.Cli
