import Rstream.Webtty.PayloadCrypto

/-!
# Rejection of unsupported suites

`make_e2e_server_payload_crypto` checks the two suites of the grant first and looks
at the error code only after it has normalised the identity. An identity that comes
with its public key but without its key id goes through `e2e_key_id`, which clears
the error code: the check is lost, and an envelope that was sealed under the very
suites of the grant then opens (`FailsClosed` fails). Every other identity keeps the
error (`failsClosed_iff`).
-/

namespace Rstream.Webtty

open IoRstrm (ErrorCode)

variable {prims : Primitives} {grant : SessionKeyGrant} {identity : E2eIdentity}

namespace SessionKeyGrant

/-- The suites that the implementation has. -/
def Supported (grant : SessionKeyGrant) : Prop :=
  grant.payloadSuite = .aes256Gcm ∧ grant.keyEnvelopeSuite = .hpkeX25519HkdfSha256Aes256Gcm

instance (grant : SessionKeyGrant) : Decidable grant.Supported :=
  inferInstanceAs (Decidable (_ ∧ _))

/-- The error code after the checks of the suites. -/
def suiteError (grant : SessionKeyGrant) : ErrorCode :=
  validateKeyEnvelopeSuite grant.keyEnvelopeSuite (validatePayloadSuite grant.payloadSuite .none)

theorem failed_suiteError (grant : SessionKeyGrant) :
    grant.suiteError.failed = true ↔ ¬ grant.Supported := by
  rw [suiteError, validateKeyEnvelopeSuite, Supported]
  by_cases envelope : grant.keyEnvelopeSuite = .hpkeX25519HkdfSha256Aes256Gcm
  · rw [if_neg (not_not.mpr envelope), validatePayloadSuite]
    by_cases payload : grant.payloadSuite = .aes256Gcm
    · simp [payload, envelope]
    · simp [payload]
  · simp [envelope]

end SessionKeyGrant

/-- What the property asks of one call: a crypto is returned only for supported suites,
and the error of every check reaches the caller. -/
structure FailsClosed (prims : Primitives) (grant : SessionKeyGrant) (identity : E2eIdentity) :
    Prop where
  supported : (makeE2eServerPayloadCrypto prims grant identity).1.isSome = true → grant.Supported
  suites : grant.suiteError.failed = true →
    (makeE2eServerPayloadCrypto prims grant identity).2.failed = true
  keyId : grant.payloadKeyId.length ≠ 16 →
    (makeE2eServerPayloadCrypto prims grant identity).2.failed = true
  identity : (normalizeIdentity prims identity .none).2.failed = true →
    (makeE2eServerPayloadCrypto prims grant identity).2.failed = true

/-- The payload key in an envelope, as the owner of the identity opens it. -/
def envelopeKey (prims : Primitives) (grant : SessionKeyGrant) (normalized : E2eIdentity)
    (envelope : KeyEnvelope) : Bytes × ErrorCode :=
  let (info, errorCode) := hpkeInfo grant.payloadSuite grant.payloadKeyId grant.keyContext
    grant.keyEnvelopeSuite .none
  let (aad, errorCode) := hpkeAad envelope.recipientKeyId grant.payloadSuite grant.payloadKeyId
    grant.keyContext grant.keyEnvelopeSuite errorCode
  hpkeOpen prims normalized envelope info aad errorCode

/-- What the call does once the identity is normalised and the error code is clear. -/
def openGrant (prims : Primitives) (grant : SessionKeyGrant) (normalized : E2eIdentity) :
    Option PayloadCrypto × ErrorCode :=
  match grant.keyEnvelopes.find? (·.recipientKeyId == normalized.keyId) with
  | none => (none, Error.Code.cryptoError)
  | some matched =>
    let (payloadKey, errorCode) := envelopeKey prims grant normalized matched
    if errorCode.failed ∨ payloadKey.length ≠ 32 then (none, Error.Code.cryptoError)
    else (some ⟨grant.payloadSuite, payloadKey, grant.payloadKeyId, grant.keyContext,
      grant.keyEnvelopeSuite, []⟩, errorCode)

/-- The identity has its two keys but not its key id, so that normalising it only
computes the key id. -/
def Unlabelled (identity : E2eIdentity) : Prop :=
  identity.privateKey.length = 32 ∧ identity.publicKey.length = 32 ∧ identity.keyId = []

/-- The identity with the key id of its public key. -/
def labelled (prims : Primitives) (identity : E2eIdentity) : E2eIdentity :=
  { identity with keyId := (e2eKeyId prims identity.publicKey).1 }

/-- The first envelope addressed to the identity opens, under the suites of the grant, to
a key of the right size. -/
def Opens (prims : Primitives) (grant : SessionKeyGrant) (identity : E2eIdentity) : Prop :=
  ∃ envelope ∈ grant.keyEnvelopes.find?
      (·.recipientKeyId == (labelled prims identity).keyId),
    (envelopeKey prims grant (labelled prims identity) envelope).2.failed = false ∧
      (envelopeKey prims grant (labelled prims identity) envelope).1.length = 32

theorem failed_e2eKeyId (prims : Primitives) {publicKey : Bytes} (sized : publicKey.length = 32) :
    (e2eKeyId prims publicKey).2 = .none := by
  rw [e2eKeyId, if_neg (not_not.mpr sized)]

theorem isEmpty_of_length {bytes : Bytes} {size : Nat} (sized : bytes.length = size + 1) :
    bytes.isEmpty = false := by
  cases bytes with
  | nil => cases sized
  | cons byte bytes => rfl

/-- An unlabelled identity is normalised whatever the error code was, and leaves it clear. -/
theorem normalizeIdentity_unlabelled (prims : Primitives) (unlabelled : Unlabelled identity)
    (errorCode : ErrorCode) :
    normalizeIdentity prims identity errorCode = (labelled prims identity, .none) := by
  obtain ⟨private32, public32, noId⟩ := unlabelled
  have cleared := failed_e2eKeyId prims public32
  rw [normalizeIdentity, if_neg (not_not.mpr private32), isEmpty_of_length public32]
  simp only [Bool.false_eq_true, if_false, false_and, public32, ne_eq, not_true, noId,
    List.isEmpty_nil, if_true]
  rw [labelled, ← cleared]

/-- Any other identity keeps an error that was raised before. -/
theorem failed_normalizeIdentity (prims : Primitives) {errorCode : ErrorCode}
    (raised : errorCode.failed = true) (other : ¬ Unlabelled identity) :
    (normalizeIdentity prims identity errorCode).2.failed = true := by
  rw [normalizeIdentity]
  split
  · rfl
  · rename_i private32
    rw [not_not] at private32
    by_cases empty : identity.publicKey.isEmpty = true
    · have kept :
          x25519PublicFromPrivate prims identity.privateKey errorCode = ([], errorCode) := by
        rw [x25519PublicFromPrivate, x25519PrivateKey, if_neg (not_not.mpr private32)]
        simp only [raised, true_or, if_true]
      simp only [empty, if_true, kept, raised, true_and]
    · simp only [empty, Bool.false_eq_true, if_false, false_and]
      split
      · rfl
      · rename_i public32
        rw [not_not] at public32
        split
        · rename_i noId
          exact absurd ⟨private32, public32, List.isEmpty_iff.mp noId⟩ other
        · split
          · rfl
          · exact raised

/-- The call fails while the key id has the wrong size. -/
theorem makeE2eServerPayloadCrypto_of_keyId (prims : Primitives) (identity : E2eIdentity)
    (sized : grant.payloadKeyId.length ≠ 16) :
    makeE2eServerPayloadCrypto prims grant identity =
      (none, Error.Code.cryptoError.toErrorCode) := by
  rw [makeE2eServerPayloadCrypto, if_pos sized]

/-- The call returns the error that is left when the identity is normalised. -/
theorem makeE2eServerPayloadCrypto_of_failed (sized : grant.payloadKeyId.length = 16)
    (raised : (normalizeIdentity prims identity grant.suiteError).2.failed = true) :
    makeE2eServerPayloadCrypto prims grant identity =
      (none, (normalizeIdentity prims identity grant.suiteError).2) := by
  rw [SessionKeyGrant.suiteError] at raised ⊢
  simp only [makeE2eServerPayloadCrypto, sized, ne_eq, not_true, if_false, raised, if_true]

/-- Otherwise the call is `openGrant`. -/
theorem makeE2eServerPayloadCrypto_eq {normalized : E2eIdentity}
    (sized : grant.payloadKeyId.length = 16)
    (normalizes : normalizeIdentity prims identity grant.suiteError = (normalized, .none)) :
    makeE2eServerPayloadCrypto prims grant identity = openGrant prims grant normalized := by
  rw [SessionKeyGrant.suiteError] at normalizes
  simp only [makeE2eServerPayloadCrypto, sized, ne_eq, not_true, if_false, normalizes, openGrant]
  rfl

/-- The call returns a crypto or an error. -/
theorem failed_openGrant {normalized : E2eIdentity} :
    (openGrant prims grant normalized).2.failed = false ↔
      (openGrant prims grant normalized).1.isSome = true := by
  rw [openGrant]
  split
  · simp
  · simp only
    split
    · simp
    · rename_i succeeded
      rw [not_or, Bool.not_eq_true] at succeeded
      simp only [succeeded.1, Option.isSome_some]

theorem isSome_openGrant :
    (openGrant prims grant (labelled prims identity)).1.isSome = true ↔
      Opens prims grant identity := by
  rw [openGrant, Opens]
  cases grant.keyEnvelopes.find? (·.recipientKeyId == (labelled prims identity).keyId) with
  | none => simp
  | some envelope =>
    simp only [Option.mem_some_iff, exists_eq_left']
    split
    · rename_i failed
      constructor
      · intro present
        cases present
      · rintro ⟨clear, sized⟩
        rw [clear, sized] at failed
        simp at failed
    · rename_i succeeded
      rw [not_or, Bool.not_eq_true, not_not] at succeeded
      exact ⟨fun _ => succeeded, fun _ => rfl⟩

theorem SessionKeyGrant.suiteError_eq_none (supported : grant.Supported) :
    grant.suiteError = .none := by
  rw [suiteError, validateKeyEnvelopeSuite, if_neg (not_not.mpr supported.2),
    validatePayloadSuite, if_neg (not_not.mpr supported.1)]

/-- A call that returns an error alone fails closed. -/
theorem FailsClosed.of_failed
    (absent : (makeE2eServerPayloadCrypto prims grant identity).1.isSome = false)
    (raised : (makeE2eServerPayloadCrypto prims grant identity).2.failed = true) :
    FailsClosed prims grant identity where
  supported present := by
    rw [absent] at present
    cases present
  suites _ := raised
  keyId _ := raised
  identity _ := raised

/-- Supported suites raise no error that could be lost. -/
theorem FailsClosed.of_supported (supported : grant.Supported) :
    FailsClosed prims grant identity := by
  by_cases sized : grant.payloadKeyId.length = 16
  · constructor
    · intro _
      exact supported
    · intro raised
      exact absurd supported ((SessionKeyGrant.failed_suiteError grant).mp raised)
    · intro unsized
      exact absurd sized unsized
    · intro raised
      rw [← SessionKeyGrant.suiteError_eq_none supported] at raised
      rw [makeE2eServerPayloadCrypto_of_failed sized raised]
      exact raised
  · apply FailsClosed.of_failed
    · rw [makeE2eServerPayloadCrypto_of_keyId prims identity sized]
      rfl
    · rw [makeE2eServerPayloadCrypto_of_keyId prims identity sized]
      rfl

/-- **The validation of a grant fails closed** exactly when its suites are supported, or
the error of their checks is not lost, or no envelope opens under them. -/
theorem failsClosed_iff (prims : Primitives) (grant : SessionKeyGrant) (identity : E2eIdentity) :
    FailsClosed prims grant identity ↔
      grant.Supported ∨ ¬ Unlabelled identity ∨ grant.payloadKeyId.length ≠ 16 ∨
        ¬ Opens prims grant identity := by
  by_cases sized : grant.payloadKeyId.length = 16
  swap
  · have failed := makeE2eServerPayloadCrypto_of_keyId prims identity sized
    refine ⟨fun _ => .inr (.inr (.inl sized)), fun _ => .of_failed ?_ ?_⟩
    · rw [failed]
      rfl
    · rw [failed]
      rfl
  by_cases unlabelled : Unlabelled identity
  · have opened := makeE2eServerPayloadCrypto_eq sized
      (normalizeIdentity_unlabelled prims unlabelled grant.suiteError)
    constructor
    · intro closed
      by_cases opens : Opens prims grant identity
      · left
        apply closed.supported
        rw [opened, isSome_openGrant]
        exact opens
      · exact .inr (.inr (.inr opens))
    · rintro (supported | labelled | unsized | shut)
      · exact .of_supported supported
      · exact absurd unlabelled labelled
      · exact absurd sized unsized
      · have absent : (makeE2eServerPayloadCrypto prims grant identity).1.isSome = false := by
          rw [opened, Bool.eq_false_iff, Ne, isSome_openGrant]
          exact shut
        apply FailsClosed.of_failed absent
        rw [opened, ← Bool.not_eq_false]
        intro clear
        exact shut (isSome_openGrant.mp (failed_openGrant.mp clear))
  · refine ⟨fun _ => .inr (.inl unlabelled), fun _ => ?_⟩
    by_cases supported : grant.Supported
    · exact .of_supported supported
    · have raised := failed_normalizeIdentity prims
        ((SessionKeyGrant.failed_suiteError grant).mpr supported) unlabelled
      have failed := makeE2eServerPayloadCrypto_of_failed sized raised
      apply FailsClosed.of_failed
      · rw [failed]
        rfl
      · rw [failed]
        exact raised

/-! ## A grant that is accepted although its suite is not -/

/-- A checksum, repeated. -/
def checksum (size : Nat) (bytes : Bytes) : Bytes :=
  List.replicate size (bytes.foldl (fun sum byte => 3 * sum + byte + 1) 0)

/-- Small primitives with the shape of the real ones: a public key is its private key, the
shared secret the exclusive or of two keys, and a tag a checksum. -/
def smallPrims : Primitives where
  sha256 := checksum 32
  hmac key input := some (checksum 32 (key ++ input))
  loadsPrivate _ := true
  loadsPublic _ := true
  rawPublic key := if key.length = 32 then some key else none
  derive key peer := some (key.zipWith (· ^^^ ·) peer)
  gcmEncrypt key nonce aad plaintext :=
    some (plaintext, checksum 16 (key ++ nonce ++ aad ++ plaintext))
  gcmDecrypt key nonce aad body tag :=
    if tag = checksum 16 (key ++ nonce ++ aad ++ body) then some body else none
  hmac_length key input digest same := by
    rw [← Option.some.inj same, checksum, List.length_replicate]
  sha256_length input := by rw [checksum, List.length_replicate]
  rawPublic_length key public' same := by
    split at same
    · rw [← Option.some.inj same]
      assumption
    · cases same
  gcmEncrypt_length key nonce aad plaintext body tag same := by
    cases same
    exact ⟨rfl, by rw [checksum, List.length_replicate]⟩
  gcmDecrypt_length key nonce aad body tag plaintext same := by
    split at same
    · rw [← Option.some.inj same]
    · cases same

/-- The identity of a server that is configured by its two keys. -/
def keyedIdentity : E2eIdentity where
  publicKey := List.replicate 32 5
  privateKey := List.replicate 32 5

/-- A grant with the suite ChaCha20-Poly1305 for the payloads, whose envelope was sealed
for the identity. -/
def chachaGrant : SessionKeyGrant where
  payloadSuite := .chacha20Poly1305
  payloadKeyId := List.replicate 16 7
  keyEnvelopes := (hpkeSeal smallPrims
    (some ⟨some (List.replicate 32 9), some (List.replicate 32 9)⟩)
    (labelled smallPrims keyedIdentity).keyId keyedIdentity.publicKey
    (hpkeInfo .chacha20Poly1305 (List.replicate 16 7) [] .hpkeX25519HkdfSha256Aes256Gcm .none).1
    (hpkeAad (labelled smallPrims keyedIdentity).keyId .chacha20Poly1305 (List.replicate 16 7) []
      .hpkeX25519HkdfSha256Aes256Gcm .none).1
    (List.replicate 32 11)).1.toList
  keyContext := []
  keyEnvelopeSuite := .hpkeX25519HkdfSha256Aes256Gcm

/-- The grant is accepted without an error. -/
theorem chachaGrant_accepted : ¬ FailsClosed smallPrims chachaGrant keyedIdentity := by
  intro closed
  have accepted :
      (makeE2eServerPayloadCrypto smallPrims chachaGrant keyedIdentity).1.isSome = true := by
    decide +kernel
  exact absurd (closed.supported accepted) (by decide)

end Rstream.Webtty
