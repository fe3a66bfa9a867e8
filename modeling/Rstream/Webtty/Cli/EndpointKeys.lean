import Rstream.Webtty.Cli.Base64url
import Rstream.Webtty.Server.Types
import Rstream.Library.Results
import Rstream.Library.Separators

/-!
# Keys on the command line

The public half of an endpoint identity is written as four words in base64, with colons between
them. Both key ids are recomputed from the keys when it is read, so a text that is accepted names
the keys that it spells out.
-/

namespace Rstream.Webtty.Cli

open IoRstrm (ErrorCode)
open Library
open Server (EndpointIdentityPublic)

/-! ## The source -/

def signingKeyIdDomain : Bytes := bytesFromString "rstream-webtty-signing-key-id-v1"

section Source

variable (prims : Primitives) (parsesPublicKey : Bytes → Bool)

/-- `signing_key_id`; whether `parse_public_key_der` reads a key is a parameter. -/
def signingKeyId (publicKey : Bytes) : Bytes × ErrorCode :=
  if publicKey = [] then ([], Error.Code.cryptoError)
  else if parsesPublicKey publicKey = false then ([], Error.Code.cryptoError)
  else (prims.sha256 (signingKeyIdDomain ++ publicKey), .none)

def parseKnownServerEndpointIdentity (raw : Bytes) : Except String EndpointIdentityPublic :=
  match (trimCopy raw).splitOn 58 with
  | [first, second, third, fourth] => do
      let encryptionKeyId ← base64urlDecode first 16 "known WebTTY server encryption key id"
      let encryptionPublicKey ←
        base64urlDecode second 32 "known WebTTY server encryption public key"
      let signingKeyId' ← base64urlDecode third 32 "known WebTTY server signing key id"
      let signingPublicKey ← base64urlDecode fourth 0 "known WebTTY server signing public key"
      let expectedEncryption := e2eKeyId prims encryptionPublicKey
      if expectedEncryption.2.failed ∨ expectedEncryption.1 ≠ encryptionKeyId then
        .error "known WebTTY server encryption key id does not match public key"
      else
        let expectedSigning := signingKeyId prims parsesPublicKey signingPublicKey
        if expectedSigning.2.failed ∨ expectedSigning.1 ≠ signingKeyId' then
          .error "known WebTTY server signing key id does not match public key"
        else
          .ok { encryptionKeyId, encryptionPublicKey, signingKeyId := signingKeyId',
                signingPublicKey }
  | _ => .error ("known WebTTY server endpoint identity must be " ++
      "encryption_key_id:encryption_public_key:signing_key_id:signing_public_key")

def endpointIdentityString (identity : EndpointIdentityPublic) : Bytes :=
  base64urlEncode identity.encryptionKeyId ++ 58 ::
    (base64urlEncode identity.encryptionPublicKey ++ 58 ::
      (base64urlEncode identity.signingKeyId ++ 58 :: base64urlEncode identity.signingPublicKey))

def parseAuthorizedClientKey (raw : Bytes) : Except String (Bytes × Bytes) :=
  let value := trimCopy raw
  if value.count 58 = 3 then do
    let identity ← parseKnownServerEndpointIdentity prims parsesPublicKey value
    .ok (identity.signingKeyId, identity.signingPublicKey)
  else
    match cut 58 value with
    | (_, none) => do
        let publicKey ← base64urlDecode value 0 "authorized WebTTY client signing public key"
        let keyId := signingKeyId prims parsesPublicKey publicKey
        if keyId.2.failed then .error "invalid authorized WebTTY client signing public key"
        else .ok (keyId.1, publicKey)
    | (before, some after) => do
        let keyId ← base64urlDecode before 32 "authorized WebTTY client signing key id"
        let publicKey ← base64urlDecode after 0 "authorized WebTTY client signing public key"
        let expected := signingKeyId prims parsesPublicKey publicKey
        if expected.2.failed ∨ expected.1 ≠ keyId then
          .error "authorized WebTTY client signing key id does not match public key"
        else .ok (keyId, publicKey)

def parseKnownServerKey (raw : Bytes) : Except String E2eRecipient :=
  let value := trimCopy raw
  if value.count 58 = 3 then do
    let identity ← parseKnownServerEndpointIdentity prims parsesPublicKey value
    .ok { keyId := identity.encryptionKeyId, publicKey := identity.encryptionPublicKey }
  else
    match cut 58 value with
    | (_, none) => do
        let publicKey ← base64urlDecode value 32 "known WebTTY server public key"
        let keyId := e2eKeyId prims publicKey
        if keyId.2.failed then .error "invalid known WebTTY server public key"
        else .ok { keyId := keyId.1, publicKey }
    | (before, some after) => do
        let keyId ← base64urlDecode before 16 "known WebTTY server key id"
        let publicKey ← base64urlDecode after 32 "known WebTTY server public key"
        let expected := e2eKeyId prims publicKey
        if expected.2.failed ∨ expected.1 ≠ keyId then
          .error "known WebTTY server key id does not match public key"
        else .ok { keyId, publicKey }

end Source

/-! ## Identities -/

section

variable {prims : Primitives} {parsesPublicKey : Bytes → Bool}

/-- The key ids of an identity are those of its keys. -/
structure ConsistentKeyIds (prims : Primitives) (parsesPublicKey : Bytes → Bool)
    (identity : EndpointIdentityPublic) : Prop where
  encryption : e2eKeyId prims identity.encryptionPublicKey = (identity.encryptionKeyId, .none)
  signing : signingKeyId prims parsesPublicKey identity.signingPublicKey =
    (identity.signingKeyId, .none)

variable {publicKey keyId : Bytes} {identity : EndpointIdentityPublic}

theorem e2eKeyId_sizes (known : e2eKeyId prims publicKey = (keyId, .none)) :
    publicKey.length = 32 ∧ keyId.length = 16 := by
  unfold e2eKeyId at known
  split at known
  · cases (Prod.ext_iff.mp known).2
  · rename_i sized
    obtain ⟨rfl, -⟩ := Prod.ext_iff.mp known
    refine ⟨not_not.mp sized, ?_⟩
    simp only [List.length_take, prims.sha256_length]
    decide

theorem signingKeyId_sizes (known : signingKeyId prims parsesPublicKey publicKey = (keyId, .none)) :
    publicKey ≠ [] ∧ keyId.length = 32 := by
  unfold signingKeyId at known
  split at known
  · cases (Prod.ext_iff.mp known).2
  rename_i nonempty
  split at known
  · cases (Prod.ext_iff.mp known).2
  · obtain ⟨rfl, -⟩ := Prod.ext_iff.mp known
    exact ⟨nonempty, prims.sha256_length _⟩

/-- Nothing of an identity's text is trimmed, and its words are found again. -/
theorem splitOn_endpointIdentityString (identity : EndpointIdentityPublic) :
    (trimCopy (endpointIdentityString identity)).splitOn 58 =
      [base64urlEncode identity.encryptionKeyId, base64urlEncode identity.encryptionPublicKey,
        base64urlEncode identity.signingKeyId, base64urlEncode identity.signingPublicKey] := by
  have plain : ∀ byte ∈ endpointIdentityString identity, isSpace byte = false := by
    have colon : isSpace 58 = false := rfl
    have word : ∀ (bytes : Bytes) (byte : UInt8), byte ∈ base64urlEncode bytes →
        isSpace byte = false := by
      intro bytes byte mem
      obtain ⟨v, rfl⟩ := exists_of_mem_base64urlEncode mem
      exact (character_plain v).1
    intro byte mem
    simp only [endpointIdentityString, List.mem_append, List.mem_cons] at mem
    obtain mem | rfl | mem | rfl | mem | rfl | mem := mem
    · exact word _ _ mem
    · exact colon
    · exact word _ _ mem
    · exact colon
    · exact word _ _ mem
    · exact colon
    · exact word _ _ mem
  rw [trimCopy_of_plain plain, endpointIdentityString,
    List.splitOn_append_cons_self_of_not_mem (colon_notMem_base64urlEncode _),
    List.splitOn_append_cons_self_of_not_mem (colon_notMem_base64urlEncode _),
    List.splitOn_append_cons_self_of_not_mem (colon_notMem_base64urlEncode _),
    List.splitOn_eq_singleton (colon_notMem_base64urlEncode _)]

/-- **An identity with its own key ids is read back.** -/
theorem parseKnownServerEndpointIdentity_string
    (consistent : ConsistentKeyIds prims parsesPublicKey identity) :
    parseKnownServerEndpointIdentity prims parsesPublicKey (endpointIdentityString identity) =
      .ok identity := by
  obtain ⟨keySized, idSized⟩ := e2eKeyId_sizes consistent.encryption
  obtain ⟨signs, signingSized⟩ := signingKeyId_sizes consistent.signing
  have idPresent : identity.encryptionKeyId ≠ [] := List.ne_nil_of_length_pos (by omega)
  have keyPresent : identity.encryptionPublicKey ≠ [] := List.ne_nil_of_length_pos (by omega)
  have signingPresent : identity.signingKeyId ≠ [] := List.ne_nil_of_length_pos (by omega)
  rw [parseKnownServerEndpointIdentity, splitOn_endpointIdentityString]
  simp only [base64urlDecode_base64urlEncode _ idPresent (Or.inr idSized),
    base64urlDecode_base64urlEncode _ keyPresent (Or.inr keySized),
    base64urlDecode_base64urlEncode _ signingPresent (Or.inr signingSized),
    base64urlDecode_base64urlEncode _ signs (Or.inl rfl), ok_bind, consistent.encryption,
    consistent.signing]
  have agrees : ∀ keyId : Bytes, ¬(ErrorCode.none.failed = true ∨ keyId ≠ keyId) := by
    rintro keyId (failed | other)
    · cases failed
    · exact other rfl
  rw [if_neg (agrees _), if_neg (agrees _)]

theorem e2eKeyId_of_not_failed (computed : (e2eKeyId prims publicKey).2.failed = false) :
    (e2eKeyId prims publicKey).2 = .none := by
  unfold e2eKeyId at computed ⊢
  split
  · rename_i sized
    rw [if_pos sized] at computed
    cases computed
  · rfl

theorem signingKeyId_of_not_failed
    (computed : (signingKeyId prims parsesPublicKey publicKey).2.failed = false) :
    (signingKeyId prims parsesPublicKey publicKey).2 = .none := by
  unfold signingKeyId at computed ⊢
  split
  · rename_i empty
    rw [if_pos empty] at computed
    cases computed
  split
  · rename_i nonempty refused
    rw [if_neg nonempty, if_pos refused] at computed
    cases computed
  · rfl

/-- **What is read has consistent key ids.** -/
theorem consistent_of_parse {raw : Bytes}
    (parsed : parseKnownServerEndpointIdentity prims parsesPublicKey raw = .ok identity) :
    ConsistentKeyIds prims parsesPublicKey identity := by
  rw [parseKnownServerEndpointIdentity] at parsed
  split at parsed
  · simp only [bind_eq_ok] at parsed
    obtain ⟨keyId, -, publicKey, -, signingId, -, signingKey, -, checked⟩ := parsed
    split at checked
    · cases checked
    rename_i encryption
    split at checked
    · cases checked
    rename_i signing
    obtain ⟨computed, same⟩ := not_or.mp encryption
    obtain ⟨computed', same'⟩ := not_or.mp signing
    obtain rfl := Except.ok.inj checked
    exact ⟨Prod.ext (not_not.mp same) (e2eKeyId_of_not_failed (Bool.eq_false_iff.mpr computed)),
      Prod.ext (not_not.mp same')
        (signingKeyId_of_not_failed (Bool.eq_false_iff.mpr computed'))⟩
  · cases parsed

/-- **The codec and the texts of identities.** Every nonempty byte string is read back from its
encoding; what is accepted is, but for spaces around it, the encoding of nonempty bytes of the
expected size; and an identity is read back from its text. -/
theorem base64url_round_trips :
    (∀ (bytes : Bytes) (field : String), bytes ≠ [] →
      base64urlDecode (base64urlEncode bytes) 0 field = .ok bytes) ∧
    (∀ (raw : Bytes) (expectedSize : Nat) (field : String) (bytes : Bytes),
      base64urlDecode raw expectedSize field = .ok bytes ↔
        trimCopy raw = base64urlEncode bytes ∧ bytes ≠ [] ∧
          (expectedSize = 0 ∨ bytes.length = expectedSize)) ∧
    Function.Injective base64urlEncode ∧
    (∀ (prims : Primitives) (parsesPublicKey : Bytes → Bool) (identity : EndpointIdentityPublic),
      ConsistentKeyIds prims parsesPublicKey identity →
        parseKnownServerEndpointIdentity prims parsesPublicKey (endpointIdentityString identity) =
          .ok identity) := by
  refine ⟨?_, ?_, base64urlEncode_injective, ?_⟩
  · intro bytes field nonempty
    exact base64urlDecode_base64urlEncode field nonempty (Or.inl rfl)
  · intro raw expectedSize field bytes
    exact base64urlDecode_ok_iff
  · intro prims parsesPublicKey identity consistent
    exact parseKnownServerEndpointIdentity_string consistent

end

end Rstream.Webtty.Cli
