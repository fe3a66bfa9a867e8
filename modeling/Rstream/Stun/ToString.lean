import Rstream.Stun.Grammar

/-!
# A message as text

A message is turned into a JSON value and dumped. An attribute that has no known type, or whose value
cannot be parsed, becomes a text of its own; dumping throws when a string is not valid UTF-8. The
strings of a message are the texts of its attributes, which are bytes that were received
(`messageToString_iff`).
-/

namespace Rstream.Stun

open Library

universe u v

/-! ## JSON -/

/-- `nlohmann::json`: a text is one of the source, a string one of bytes. -/
inductive Json where
  | null
  | number (value : Nat)
  | text (value : String)
  | string (bytes : Bytes)
  | array (items : List Json)
  | object (members : List (String × Json))

mutual

/-- The strings of bytes in a value. -/
def Json.strings : Json → List Bytes
  | .string bytes => [bytes]
  | .array items => Json.itemStrings items
  | .object members => Json.memberStrings members
  | .null | .number _ | .text _ => []

def Json.itemStrings : List Json → List Bytes
  | [] => []
  | item :: items => item.strings ++ Json.itemStrings items

def Json.memberStrings : List (String × Json) → List Bytes
  | [] => []
  | (_, value) :: members => value.strings ++ Json.memberStrings members

end

attribute [simp] Json.strings Json.itemStrings Json.memberStrings

/-- The ranges of the bytes behind the first byte of a character. -/
def utf8Tails (first : UInt8) : Option (List (UInt8 × UInt8)) :=
  if first ≤ 0x7F then some []
  else if 0xC2 ≤ first ∧ first ≤ 0xDF then some [(0x80, 0xBF)]
  else if first = 0xE0 then some [(0xA0, 0xBF), (0x80, 0xBF)]
  else if first = 0xED then some [(0x80, 0x9F), (0x80, 0xBF)]
  else if 0xE1 ≤ first ∧ first ≤ 0xEF then some [(0x80, 0xBF), (0x80, 0xBF)]
  else if first = 0xF0 then some [(0x90, 0xBF), (0x80, 0xBF), (0x80, 0xBF)]
  else if first = 0xF4 then some [(0x80, 0x8F), (0x80, 0xBF), (0x80, 0xBF)]
  else if 0xF1 ≤ first ∧ first ≤ 0xF3 then some [(0x80, 0xBF), (0x80, 0xBF), (0x80, 0xBF)]
  else none

/-- The bytes complete a character of which some bytes are missing, and are valid from there. -/
def completesUtf8 : List (UInt8 × UInt8) → Bytes → Bool
  | [], [] => true
  | _ :: _, [] => false
  | [], first :: bytes =>
    match utf8Tails first with
    | some tails => completesUtf8 tails bytes
    | none => false
  | (low, high) :: tails, byte :: bytes =>
    decide (low ≤ byte ∧ byte ≤ high) && completesUtf8 tails bytes

/-- Bytes that are valid UTF-8. -/
def validUtf8 (bytes : Bytes) : Bool := completesUtf8 [] bytes

/-- What is not part of this code: the text of an address, and that of a JSON value. -/
structure Texts where
  address : MappedAddress → String
  json : Json → Bytes

def Json.dump (texts : Texts) (json : Json) : Except Fault Bytes :=
  if json.strings.all validUtf8 then .ok (texts.json json)
  else .error (.thrown "invalid UTF-8 byte")

/-! ## Values -/

/-- The names in `m_attribute_properties`. -/
def attributeName : AttributeType → String
  | .mappedAddress => "mapped_address"
  | .xorMappedAddress => "xor_mapped_address"
  | .username => "username"
  | .messageIntegrity => "message_integrity"
  | .fingerprint => "fingerprint"
  | .errorCode => "error_code"
  | .realm => "realm"
  | .nonce => "nonce"
  | .unknownAttributes => "unknown_attributes"
  | .software => "software"
  | .alternateServer => "alternate_server"
  | .priority => "priority"
  | .useCandidate => "use_candidate"
  | .iceControlled => "ice_controlled"
  | .iceControlling => "ice_controlling"
  | .changeRequest => "change_request"
  | .responsePort => "response_port"
  | .padding => "padding"
  | .cacheTimeout => "cache_timeout"
  | .responseOrigin => "response_origin"
  | .otherAddress => "other_address"

/-- The format `%02x`. -/
def hex (value : Nat) : String := String.ofList ((Nat.toDigits 16 value).leftpad 2 '0')

/-- The bytes of an array, each in the format `%02x`. -/
def hexBytes (bytes : Bytes) : String := String.join (bytes.map fun byte => hex byte.toNat)

/-- The flags of a change request. -/
def changeFlags (value : UInt32) : List Json :=
  (if value &&& 2 ≠ 0 then [.text "change_ip"] else []) ++
    if value &&& 4 ≠ 0 then [.text "change_port"] else []

/-- `serialize_json_value<attribute_value_mapped_address_base>`. -/
def addressJson (texts : Texts) (value : MappedAddress) : Json :=
  .object [("address", .text (texts.address value)), ("port", .number value.port.toNat)]

/-- `serialize_json_value` of a value. -/
def valueJson (texts : Texts) : AttributeValue → Json
  | .mappedAddress value | .xorMappedAddress value | .alternateServer value
  | .responseOrigin value | .otherAddress value => addressJson texts value
  | .username value | .realm value | .nonce value | .software value => .string value
  | .messageIntegrity .undefined => .null
  | .messageIntegrity (.input password) => .object [("password", .string password)]
  | .messageIntegrity (.output serialized) =>
    .object [("integrity", .text (hexBytes serialized.val))]
  | .fingerprint none => .null
  | .fingerprint (some value) => .number value.toNat
  | .errorCode codeClass codeNumber reason =>
    .object [("code", .object [("class", .number codeClass.toNat),
      ("number", .number codeNumber.toNat)]), ("reason", .string reason)]
  | .unknownAttributes [] => .null
  | .unknownAttributes (type :: types) =>
    .array ((type :: types).map fun type => .number type.toNat)
  | .priority value => .number value.toNat
  | .useCandidate => .null
  | .iceControlled value => .number value.toNat
  | .iceControlling value => .number value.toNat
  | .changeRequest value =>
    if changeFlags value = [] then .null else .object [("flags", .array (changeFlags value))]
  | .responsePort value => .object [("port", .number value.toNat)]
  | .padding value => .object [("padding", .string value)]
  | .cacheTimeout => .null

/-! ## Messages -/

/-- The members of an attribute: its name, and its content unless that is null. -/
def attributeMembers (type : AttributeType) : Json → List (String × Json)
  | .null => [("name", .text (attributeName type))]
  | content => [("name", .text (attributeName type)), ("content", content)]

/-- `serialize_json_value<attribute>`. -/
def attributeJson (texts : Texts) (attr : Attribute) : Except Fault Json :=
  match getAttributeType attr.header.type with
  | none => .error (.thrown "unknown_stun_attribute")
  | some type => do
      let value ← attr.get type
      .ok (.object (attributeMembers type (valueJson texts value)))

/-- `catch (...)`: nothing in place of an exception. -/
def guarded {α : Type u} : Except Fault α → Except Fault (Option α)
  | .ok value => .ok (some value)
  | .error (.thrown _) => .ok none
  | .error fault => .error fault

/-- What stands for an attribute that is not turned into JSON. -/
def undefinedAttribute (type : UInt16) : Json :=
  .text ("undefined attribute 0x" ++
    String.ofList ((Nat.toDigits 16 type.toNat).map Char.toUpper))

/-- The loop of `serialize_json_value<attributes>`. -/
def attributesJson (texts : Texts) : List Attribute → Except Fault (List Json)
  | [] => .ok []
  | attr :: attributes => do
      let json ← guarded (attributeJson texts attr)
      let rest ← attributesJson texts attributes
      .ok (json.getD (undefinedAttribute attr.header.type) :: rest)

/-- `to_string(stun_class)`. -/
def stunClassText : StunClass → String
  | .request => "request"
  | .indication => "indication"
  | .responseSuccess => "response_success"
  | .responseError => "response_error"

/-- `to_string(stun_method)`. -/
def stunMethodText : StunMethod → String
  | .binding => "binding"

/-- `serialize_json_value<header>`. -/
def headerJson (header : Header) : Except Fault Json := do
  let stunClass ← parseStunClass header.type
  let stunMethod ← parseStunMethod header.type
  .ok (.object [
    ("magic", .text (hex header.magic.toNat)),
    ("transaction_id", .text (hexBytes header.transactionId.val)),
    ("type", .object [("class", .text (stunClassText stunClass)),
      ("method", .text (stunMethodText stunMethod))])])

/-- `serialize_json_value<message>`. -/
def messageJson (texts : Texts) (message : Message) : Except Fault Json := do
  let header ← headerJson message.header
  let attributes ← attributesJson texts message.attributes
  .ok (.object (("header", header) ::
    if message.attributes.isEmpty then [] else [("attributes", .array attributes)]))

def messageToString (texts : Texts) (message : Message) : Except Fault Bytes := do
  let json ← messageJson texts message
  json.dump texts

/-! ## The strings of a message -/

def valueTexts : AttributeValue → List Bytes
  | .username value | .realm value | .nonce value | .software value | .padding value => [value]
  | .errorCode _ _ reason => [reason]
  | .messageIntegrity (.input password) => [password]
  | _ => []

/-- The texts in an attribute: those of its value, if its type is known and it can be parsed. -/
def attributeTexts (attr : Attribute) : List Bytes :=
  match getAttributeType attr.header.type with
  | none => []
  | some type =>
    match attr.get type with
    | .ok value => valueTexts value
    | .error _ => []

/-- Every text of a message is valid UTF-8. -/
def Message.Printable (message : Message) : Prop :=
  ∀ attr ∈ message.attributes, ∀ text ∈ attributeTexts attr, validUtf8 text = true

section Strings

variable (texts : Texts)

theorem itemStrings_of_forall {items : List Json} (none_ : ∀ item ∈ items, item.strings = []) :
    Json.itemStrings items = [] := by
  induction items with
  | nil => rw [Json.itemStrings]
  | cons item items ih =>
    rw [List.forall_mem_cons] at none_
    rw [Json.itemStrings, none_.1, ih none_.2, List.append_nil]

theorem strings_changeFlags (value : UInt32) : Json.itemStrings (changeFlags value) = [] := by
  refine itemStrings_of_forall fun item mem => ?_
  rw [changeFlags, List.mem_append] at mem
  rcases mem with mem | mem <;> split at mem <;> simp only [List.mem_singleton, List.not_mem_nil]
    at mem <;> rw [mem, Json.strings]

theorem strings_valueJson (value : AttributeValue) :
    (valueJson texts value).strings = valueTexts value := by
  cases value with
  | messageIntegrity data =>
    cases data <;> simp [valueJson, valueTexts]
  | fingerprint value => cases value <;> simp [valueJson, valueTexts]
  | unknownAttributes types =>
    cases types with
    | nil => rfl
    | cons type types =>
      rw [valueJson, Json.strings]
      refine itemStrings_of_forall fun item mem => ?_
      obtain ⟨number, -, rfl⟩ := List.mem_map.mp mem
      rw [Json.strings]
  | changeRequest value =>
    show Json.strings (valueJson texts (.changeRequest value)) = []
    rw [valueJson]
    split <;> simp [strings_changeFlags]
  | _ => simp [valueJson, valueTexts, addressJson]

theorem memberStrings_attributeMembers (type : AttributeType) (content : Json) :
    Json.memberStrings (attributeMembers type content) = content.strings := by
  cases content <;> simp [attributeMembers]

theorem guarded_attributeJson {attr : Attribute} (safe : ∀ type, Safe (attr.get type)) :
    ∃ json, guarded (attributeJson texts attr) = .ok json ∧
      (json.getD (undefinedAttribute attr.header.type)).strings = attributeTexts attr := by
  cases known : getAttributeType attr.header.type with
  | none =>
    have failed : attributeJson texts attr = .error (.thrown "unknown_stun_attribute") := by
      rw [attributeJson, known]
    refine ⟨none, by rw [failed]; rfl, ?_⟩
    rw [attributeTexts, known]
    rfl
  | some type =>
    have run : attributeJson texts attr = (do
        let value ← attr.get type
        .ok (.object (attributeMembers type (valueJson texts value)))) := by
      rw [attributeJson, known]
    have within : attributeTexts attr = match attr.get type with
        | .ok value => valueTexts value
        | .error _ => [] := by rw [attributeTexts, known]
    rw [run, within]
    cases got : attr.get type with
    | error fault =>
      obtain ⟨what, rfl⟩ := safe type fault got
      exact ⟨none, rfl, rfl⟩
    | ok value =>
      refine ⟨some (.object (attributeMembers type (valueJson texts value))), rfl, ?_⟩
      rw [Option.getD_some, Json.strings, memberStrings_attributeMembers, strings_valueJson]

theorem attributesJson_ok {attributes : List Attribute}
    (safe : ∀ attr ∈ attributes, ∀ type, Safe (attr.get type)) :
    ∃ items, attributesJson texts attributes = .ok items ∧
      Json.itemStrings items = attributes.flatMap attributeTexts := by
  induction attributes with
  | nil => exact ⟨[], rfl, by rw [Json.itemStrings, List.flatMap_nil]⟩
  | cons attr attributes ih =>
    rw [List.forall_mem_cons] at safe
    obtain ⟨json, first, strings⟩ := guarded_attributeJson texts safe.1
    obtain ⟨items, rest, others⟩ := ih safe.2
    refine ⟨json.getD (undefinedAttribute attr.header.type) :: items, ?_, ?_⟩
    · rw [attributesJson, first, ok_bind, rest, ok_bind]
    · rw [Json.itemStrings, strings, others, List.flatMap_cons]

theorem headerJson_ok {header : Header} (known : header.type &&& 0xFEEF = 0x0001) :
    ∃ json, headerJson header = .ok json ∧ json.strings = [] := by
  obtain ⟨stunClass, classified⟩ := parseStunClass_ok header.type
  have method : parseStunMethod header.type = .ok .binding := parseStunMethod_eq_ok.mpr known
  rw [headerJson, classified, ok_bind, method, ok_bind]
  exact ⟨_, rfl, by simp⟩

theorem messageJson_ok {message : Message} (known : message.header.type &&& 0xFEEF = 0x0001)
    (safe : ∀ attr ∈ message.attributes, ∀ type, Safe (attr.get type)) :
    ∃ json, messageJson texts message = .ok json ∧
      json.strings = message.attributes.flatMap attributeTexts := by
  obtain ⟨header, made, nothing⟩ := headerJson_ok known
  obtain ⟨items, attributes, strings⟩ := attributesJson_ok texts safe
  rw [messageJson, made, ok_bind, attributes, ok_bind, ← strings]
  refine ⟨_, rfl, ?_⟩
  cases same : message.attributes with
  | nil =>
    rw [same, attributesJson] at attributes
    cases attributes
    simp [nothing]
  | cons attr attributes => simp [nothing]

/-- **A message is turned into text exactly when its texts are valid UTF-8.** -/
theorem messageToString_iff {message : Message} (known : message.header.type &&& 0xFEEF = 0x0001)
    (safe : ∀ attr ∈ message.attributes, ∀ type, Safe (attr.get type)) :
    (∃ text, messageToString texts message = .ok text) ↔ message.Printable := by
  obtain ⟨json, made, strings⟩ := messageJson_ok texts known safe
  have all : json.strings.all validUtf8 = true ↔ message.Printable := by
    rw [strings, List.all_eq_true]
    constructor
    · exact fun valid attr mem text among => valid text (List.mem_flatMap.mpr ⟨attr, mem, among⟩)
    · intro printable text mem
      obtain ⟨attr, among, within⟩ := List.mem_flatMap.mp mem
      exact printable attr among text within
  rw [messageToString, made, ok_bind, Json.dump, ← all]
  split
  · rename_i valid
    exact iff_of_true ⟨_, rfl⟩ valid
  · rename_i invalid
    exact iff_of_false (fun ⟨_, dumped⟩ => nomatch dumped) invalid

end Strings

end Rstream.Stun
