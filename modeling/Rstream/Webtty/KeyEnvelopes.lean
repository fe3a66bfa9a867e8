import Rstream.Library.Lookups
import Rstream.Webtty.PayloadSuites

/-!
# From the envelopes of a client to the key of a server

The client seals the payload key for every recipient with an ephemeral key pair; the
server finds the first envelope with its key id and derives the key of the envelope
from the other halves of the two key pairs. Both derivations have the same inputs,
so the server ends up with the crypto of the client, less the envelopes
(`server_eq_of_addressed`). An envelope for another recipient does not open: a
recipient that shares its key id with an earlier one of another public key gets no
crypto (`server_eq_none`).
-/

namespace Rstream.Webtty

open IoRstrm (ErrorCode)

variable {prims : Primitives}

/-- The primitives are ideal: keys of the right size load, both parties of an exchange
derive the same secret, and decryption inverts encryption. -/
structure Primitives.Ideal (prims : Primitives) : Prop where
  loadsPrivate : ∀ key : Bytes, key.length = 32 → prims.loadsPrivate key = true
  loadsPublic : ∀ key : Bytes, key.length = 32 → prims.loadsPublic key = true
  derive_comm : ∀ key peer keyPublic peerPublic, prims.rawPublic key = some keyPublic →
    prims.rawPublic peer = some peerPublic →
      prims.derive key peerPublic = prims.derive peer keyPublic
  gcmEncrypts : ∀ key nonce aad plaintext : Bytes, key.length = 32 → nonce.length = 12 →
    (prims.gcmEncrypt key nonce aad plaintext).isSome = true
  gcmDecrypts : ∀ key nonce aad plaintext body tag,
    prims.gcmEncrypt key nonce aad plaintext = some (body, tag) →
      prims.gcmDecrypt key nonce aad body tag = some plaintext

theorem failed_setCryptoError (errorCode : ErrorCode) :
    (setCryptoError errorCode).failed = true := by
  rw [setCryptoError]
  split
  · assumption
  · rfl

/-! ## AES-GCM -/

theorem resize_append_length (bytes rest : Bytes) :
    resize (bytes ++ rest) bytes.length = bytes := by
  rw [resize, List.take_left, List.length_append, Nat.sub_eq_zero_of_le (Nat.le_add_right _ _),
    List.replicate_zero, List.append_nil]

theorem resize_length (bytes : Bytes) : resize bytes bytes.length = bytes := by
  have same := resize_append_length bytes []
  rw [List.append_nil] at same
  exact same

variable {errorCode : ErrorCode} {key plaintext aad : Bytes}

/-- What a successful encryption did. -/
theorem aesGcmEncrypt_succeeded {nonce : Bytes}
    (succeeded : (aesGcmEncrypt prims key nonce plaintext aad errorCode).2.failed = false) :
    key.length = 32 ∧ nonce.length = 12 ∧ plaintext.length ≤ intMax ∧
      ∃ outLen body tag, authenticate aad = some outLen ∧
        prims.gcmEncrypt key nonce (aad.take outLen) plaintext = some (body, tag) ∧
        aesGcmEncrypt prims key nonce plaintext aad errorCode =
          (resize (body ++ List.replicate 16 0)
            (if plaintext.isEmpty then outLen else plaintext.length) ++ tag, errorCode) := by
  rw [aesGcmEncrypt] at succeeded ⊢
  split at succeeded
  · cases succeeded
  · rename_i sized
    rw [not_or, not_or, not_not, not_not, Nat.not_lt] at sized
    rw [if_neg (by rw [not_or, not_or, not_not, not_not, Nat.not_lt]; exact sized)]
    cases authenticated : authenticate aad with
    | none =>
      rw [authenticated] at succeeded
      cases (failed_setCryptoError errorCode).symm.trans succeeded
    | some outLen =>
      cases encrypted : prims.gcmEncrypt key nonce (aad.take outLen) plaintext with
      | none =>
        rw [authenticated] at succeeded
        simp only [encrypted, failed_setCryptoError, Bool.true_eq_false] at succeeded
      | some sealedText =>
        exact ⟨sized.1, sized.2.1, sized.2.2, outLen, sealedText.1, sealedText.2, rfl,
          encrypted, by simp only [encrypted]⟩

/-- Decryption of a ciphertext with its tag. -/
theorem aesGcmDecrypt_append {nonce body tag : Bytes} (aad : Bytes) (errorCode : ErrorCode)
    (sized : key.length = 32) (drawn : nonce.length = 12) (short : body.length + 16 ≤ intMax)
    (tagged : tag.length = 16) :
    aesGcmDecrypt prims key nonce (body ++ tag) aad errorCode =
      match authenticate aad with
      | none => ([], setCryptoError errorCode)
      | some outLen =>
        match prims.gcmDecrypt key nonce (aad.take outLen) body tag with
        | none => ([], setCryptoError errorCode)
        | some plaintext =>
          (resize plaintext (if body.length = 0 then outLen else body.length), errorCode) := by
  have length : (body ++ tag).length = body.length + 16 := by rw [List.length_append, tagged]
  have encryptedSize : (body ++ tag).length - 16 = body.length := by omega
  rw [aesGcmDecrypt, if_neg (by omega)]
  have front : (body ++ tag).take body.length = body := List.take_left
  have back : (body ++ tag).drop body.length = tag := List.drop_left
  simp only [encryptedSize, front, back]
  all_goals rfl

/-! ## HPKE -/

/-- Both parties of an exchange compute the same secret. -/
theorem x25519Dh_comm (ideal : prims.Ideal) {keyPublic peer peerPublic : Bytes}
    (sized : key.length = 32) (peerSized : peer.length = 32)
    (owned : prims.rawPublic key = some keyPublic)
    (peerOwned : prims.rawPublic peer = some peerPublic) (errorCode : ErrorCode) :
    x25519Dh prims key peerPublic errorCode = x25519Dh prims peer keyPublic errorCode := by
  have publicSized := prims.rawPublic_length key keyPublic owned
  have peerPublicSized := prims.rawPublic_length peer peerPublic peerOwned
  have derived := ideal.derive_comm key peer keyPublic peerPublic owned peerOwned
  simp only [x25519Dh, x25519PrivateKey, x25519PublicKey, sized, peerSized, publicSized,
    peerPublicSized, ne_eq, not_true, if_false, ideal.loadsPrivate key sized,
    ideal.loadsPrivate peer peerSized, ideal.loadsPublic keyPublic publicSized,
    ideal.loadsPublic peerPublic peerPublicSized, derived]

/-- The key pair is one of X25519. -/
def KeyPair.Genuine (prims : Primitives) (pair : KeyPair) : Prop :=
  ∃ key publicKey, pair.privateKey = some key ∧ pair.publicKey = some publicKey ∧
    key.length = 32 ∧ prims.rawPublic key = some publicKey

theorem recipientKeyId_of_hpkeSeal {draw : Option KeyPair} {keyId publicKey info : Bytes}
    {envelope : KeyEnvelope}
    (wrapped : hpkeSeal prims draw keyId publicKey info aad plaintext = (some envelope, errorCode))
    :
    envelope.recipientKeyId = keyId := by
  simp only [hpkeSeal] at wrapped
  split at wrapped
  · cases wrapped
  · split at wrapped
    · cases wrapped
    · cases wrapped
      rfl

theorem hpkeOpen_of_hpkeSeal (ideal : prims.Ideal) {pair : KeyPair} (genuine : pair.Genuine prims)
    {identity : E2eIdentity} (sized : identity.privateKey.length = 32)
    (owned : prims.rawPublic identity.privateKey = some identity.publicKey) {keyId info : Bytes}
    (nonempty : plaintext ≠ []) (short : plaintext.length + 16 ≤ intMax) {envelope : KeyEnvelope}
    (wrapped : hpkeSeal prims (some pair) keyId identity.publicKey info aad plaintext =
      (some envelope, errorCode)) :
    errorCode.failed = false ∧
      hpkeOpen prims identity envelope info aad .none = (plaintext, errorCode) := by
  obtain ⟨key, publicKey, keyed, keyedPublic, keySized, keyOwned⟩ := genuine
  have publicSized := prims.rawPublic_length key publicKey keyOwned
  have generated : generateE2eIdentity prims (some pair) =
      (⟨(e2eKeyId prims publicKey).1, publicKey, key⟩, .none) := by
    simp only [generateE2eIdentity, keyed, keyedPublic, Option.getD_some]
    rw [← failed_e2eKeyId prims publicSized]
  have exchanged := x25519Dh_comm ideal keySized sized keyOwned owned .none
  simp only [hpkeSeal, generated, ErrorCode.failed_none, Bool.false_eq_true, if_false] at wrapped
  have scheduled : hpkeDerive prims identity.privateKey publicKey
      (publicKey ++ identity.publicKey) info .none =
      hpkeDerive prims key identity.publicKey (publicKey ++ identity.publicKey) info .none := by
    rw [hpkeDerive, hpkeDerive, exchanged]
  split at wrapped
  · cases wrapped
  · rename_i succeeded
    rw [Bool.not_eq_true] at succeeded
    obtain ⟨keyed32, nonced12, -, outLen, body, tag, authenticated, encrypted, result⟩ :=
      aesGcmEncrypt_succeeded succeeded
    have lengths := prims.gcmEncrypt_length _ _ _ _ _ _ encrypted
    have positive : plaintext.isEmpty = false := by
      cases plaintext with
      | nil => exact absurd rfl nonempty
      | cons byte bytes => rfl
    rw [positive, if_neg Bool.false_ne_true, ← lengths.1, resize_append_length] at result
    rw [result] at wrapped succeeded
    obtain ⟨wrappedFirst, rfl⟩ := Prod.mk.inj wrapped
    cases Option.some.inj wrappedFirst
    refine ⟨succeeded, ?_⟩
    have decrypted := ideal.gcmDecrypts _ _ _ _ _ _ encrypted
    have bodyNonempty : body.length ≠ 0 := by
      rw [lengths.1]
      exact fun empty => nonempty (List.length_eq_zero_iff.mp empty)
    simp only [hpkeOpen, scheduled]
    rw [aesGcmDecrypt_append _ _ keyed32 nonced12 (by omega) lengths.2, authenticated]
    simp only [decrypted]
    rw [if_neg bodyNonempty, lengths.1, resize_length]

/-! ## The envelopes of a client -/

/-- `hpke_info` under the supported suites. -/
def wrapInfo (payloadKeyId keyContext : Bytes) : Bytes :=
  (hpkeInfo .aes256Gcm payloadKeyId keyContext .hpkeX25519HkdfSha256Aes256Gcm .none).1

/-- `hpke_aad` under the supported suites. -/
def wrapAad (keyId payloadKeyId keyContext : Bytes) : Bytes :=
  (hpkeAad keyId .aes256Gcm payloadKeyId keyContext .hpkeX25519HkdfSha256Aes256Gcm .none).1

theorem hpkeInfo_supported (payloadKeyId keyContext : Bytes) :
    hpkeInfo .aes256Gcm payloadKeyId keyContext .hpkeX25519HkdfSha256Aes256Gcm .none =
      (wrapInfo payloadKeyId keyContext, .none) := rfl

theorem hpkeAad_supported (keyId payloadKeyId keyContext : Bytes) :
    hpkeAad keyId .aes256Gcm payloadKeyId keyContext .hpkeX25519HkdfSha256Aes256Gcm .none =
      (wrapAad keyId payloadKeyId keyContext, .none) := rfl

/-- The envelope was sealed for the recipient, with one of the key pairs. -/
def SealedFor (prims : Primitives) (keyPairs : Nat → Option KeyPair)
    (payloadKey payloadKeyId keyContext : Bytes) (recipient : E2eRecipient)
    (envelope : KeyEnvelope) : Prop :=
  ∃ index errorCode, hpkeSeal prims (keyPairs index) (recipientKeyId prims recipient).1
    recipient.publicKey (wrapInfo payloadKeyId keyContext)
    (wrapAad (recipientKeyId prims recipient).1 payloadKeyId keyContext) payloadKey =
      (some envelope, errorCode)

theorem recipientKeyId_of_succeeded {recipient : E2eRecipient}
    (succeeded : (recipientKeyId prims recipient).2.failed = false) :
    recipientKeyId prims recipient = ((recipientKeyId prims recipient).1, .none) := by
  rw [recipientKeyId] at succeeded ⊢
  split
  · rename_i unnamed
    rw [if_pos unnamed, e2eKeyId] at succeeded
    rw [e2eKeyId]
    split
    · rename_i unsized
      rw [if_pos unsized] at succeeded
      cases succeeded
    · rfl
  · rfl

theorem sealRecipients_sealed {config : E2ePayloadCryptoConfig}
    (suite : config.payloadSuite = .aes256Gcm)
    (envelopeSuite : config.keyEnvelopeSuite = .hpkeX25519HkdfSha256Aes256Gcm)
    {payloadKey payloadKeyId : Bytes} {keyPairs : Nat → Option KeyPair}
    {recipients : List E2eRecipient} {index : Nat} {envelopes : List KeyEnvelope}
    (result : sealRecipients prims config payloadKey payloadKeyId keyPairs recipients index =
      (some envelopes, errorCode)) :
    List.Forall₂ (SealedFor prims keyPairs payloadKey payloadKeyId config.keyContext)
      recipients envelopes := by
  induction recipients generalizing index envelopes errorCode with
  | nil =>
    cases result
    exact .nil
  | cons recipient recipients ih =>
    rw [sealRecipients] at result
    split at result
    · cases result
    · by_cases raised : (recipientKeyId prims recipient).2.failed = true
      · simp only [raised, if_true] at result
        cases result
      · rw [Bool.not_eq_true] at raised
        rw [recipientKeyId_of_succeeded raised, suite, envelopeSuite] at result
        simp only [ErrorCode.failed_none, Bool.false_eq_true, if_false, hpkeInfo_supported,
          hpkeAad_supported] at result
        split at result
        · cases result
        · split at result
          · cases result
          · rename_i envelope sealedCode wrapped
            split at result
            · cases result
            · split at result
              · cases result
              · rename_i others otherCode rest
                cases result
                exact .cons ⟨index, sealedCode, wrapped⟩ (ih rest)

/-- What the client ends up with. -/
structure PayloadCrypto.Made (prims : Primitives) (config : E2ePayloadCryptoConfig)
    (keyPairs : Nat → Option KeyPair) (client : PayloadCrypto) : Prop where
  suite : client.payloadSuite = .aes256Gcm
  envelopeSuite : client.keyEnvelopeSuite = .hpkeX25519HkdfSha256Aes256Gcm
  key : client.payloadKey.length = 32
  keyId : client.payloadKeyId.length = 16
  envelopes : List.Forall₂ (SealedFor prims keyPairs client.payloadKey client.payloadKeyId
    client.keyContext) config.recipients client.keyEnvelopes

theorem PayloadCrypto.made_of_accepted {config : E2ePayloadCryptoConfig} {draws : ClientDraws}
    {client : PayloadCrypto}
    (accepted : (makeE2eClientPayloadCrypto prims config draws).1 = some client) :
    client.Made prims config draws.keyPairs := by
  rw [makeE2eClientPayloadCrypto] at accepted
  have suites : config.payloadSuite = .aes256Gcm ∧
      config.keyEnvelopeSuite = .hpkeX25519HkdfSha256Aes256Gcm := by
    by_contra unsupported
    have raised := (SessionKeyGrant.failed_suiteError
      ⟨config.payloadSuite, [], [], [], config.keyEnvelopeSuite⟩).mpr unsupported
    rw [SessionKeyGrant.suiteError] at raised
    simp only [raised, if_true] at accepted
    cases accepted
  simp only at accepted
  split at accepted
  · cases accepted
  · generalize (if config.payloadKey.isEmpty = true then randomBytes draws.payloadKey _
      else (config.payloadKey, _)) = chosenKey at accepted
    generalize (if config.payloadKeyId.isEmpty = true then randomBytes draws.payloadKeyId _
      else (config.payloadKeyId, _)) = chosenKeyId at accepted
    split at accepted
    · cases accepted
    · rename_i sized
      split at accepted
      · cases accepted
      · rename_i named
        rw [not_or, not_not] at named
        split at accepted
        · cases accepted
        · rename_i keyEnvelopes errorCode wrapped
          cases accepted
          exact ⟨suites.1, suites.2, not_not.mp sized, named.1,
            sealRecipients_sealed suites.1 suites.2 wrapped⟩

/-! ## The key of a server -/

/-- A client was made for recipients, one of which is the owner of the identity; the
envelopes for the others do not open for it. -/
structure Session (prims : Primitives) (config : E2ePayloadCryptoConfig) (draws : ClientDraws)
    (client : PayloadCrypto) (identity normalized : E2eIdentity) : Prop where
  accepted : (makeE2eClientPayloadCrypto prims config draws).1 = some client
  genuine : ∀ index pair, draws.keyPairs index = some pair → pair.Genuine prims
  normalizes : normalizeIdentity prims identity .none = (normalized, .none)
  owned : prims.rawPublic normalized.privateKey = some normalized.publicKey
  listed : ∃ recipient ∈ config.recipients, recipient.publicKey = normalized.publicKey ∧
    (recipientKeyId prims recipient).1 = normalized.keyId
  confined : ∀ recipient envelope,
    (recipient, envelope) ∈ config.recipients.zip client.keyEnvelopes →
      recipient.publicKey ≠ normalized.publicKey →
        (envelopeKey prims client.getSessionKeyGrant normalized envelope).2.failed = true

/-- The first recipient with the key id of the identity has its public key. -/
def Addressed (prims : Primitives) (config : E2ePayloadCryptoConfig) (normalized : E2eIdentity) :
    Prop :=
  ∀ recipient ∈ config.recipients.find?
      (fun recipient => (recipientKeyId prims recipient).1 == normalized.keyId),
    recipient.publicKey = normalized.publicKey

theorem privateKey_of_normalizes {identity normalized : E2eIdentity}
    (normalizes : normalizeIdentity prims identity .none = (normalized, errorCode))
    (clear : errorCode.failed = false) : normalized.privateKey.length = 32 := by
  rw [normalizeIdentity] at normalizes
  split at normalizes
  · cases normalizes
    cases clear
  · rename_i sized
    rw [not_not] at sized
    simp only at normalizes
    repeat' split at normalizes
    all_goals
      cases normalizes
      exact sized

namespace Session

variable {config : E2ePayloadCryptoConfig} {draws : ClientDraws} {client : PayloadCrypto}
  {identity normalized : E2eIdentity}

theorem server_eq_openGrant (session : Session prims config draws client identity normalized) :
    makeE2eServerPayloadCrypto prims client.getSessionKeyGrant identity =
      openGrant prims client.getSessionKeyGrant normalized := by
  have made := PayloadCrypto.made_of_accepted session.accepted
  have supported : client.getSessionKeyGrant.Supported := ⟨made.suite, made.envelopeSuite⟩
  apply makeE2eServerPayloadCrypto_eq made.keyId
  rw [SessionKeyGrant.suiteError_eq_none supported, session.normalizes]

theorem found (session : Session prims config draws client identity normalized) :
    ∃ recipient envelope,
      config.recipients.find?
        (fun recipient => (recipientKeyId prims recipient).1 == normalized.keyId) =
          some recipient ∧
      client.getSessionKeyGrant.keyEnvelopes.find? (·.recipientKeyId == normalized.keyId) =
        some envelope ∧
      SealedFor prims draws.keyPairs client.payloadKey client.payloadKeyId client.keyContext
        recipient envelope ∧
      (recipient, envelope) ∈ config.recipients.zip client.keyEnvelopes := by
  have made := PayloadCrypto.made_of_accepted session.accepted
  obtain ⟨listed, mem, -, named⟩ := session.listed
  obtain ⟨recipient, first⟩ := Option.isSome_iff_exists.mp
    (List.find?_isSome.mpr ⟨listed, mem, beq_iff_eq.mpr named⟩ :
      (config.recipients.find?
        (fun recipient => (recipientKeyId prims recipient).1 == normalized.keyId)).isSome = true)
  have agree : ∀ recipient envelope, SealedFor prims draws.keyPairs client.payloadKey
      client.payloadKeyId client.keyContext recipient envelope →
        ((recipientKeyId prims recipient).1 == normalized.keyId) =
          (envelope.recipientKeyId == normalized.keyId) := by
    rintro recipient envelope ⟨index, errorCode, wrapped⟩
    rw [recipientKeyId_of_hpkeSeal wrapped]
  obtain ⟨envelope, firstEnvelope, wrapped, together⟩ :=
    Library.find?_of_forall₂ made.envelopes agree first
  exact ⟨recipient, envelope, first, firstEnvelope, wrapped, together⟩

theorem opens (ideal : prims.Ideal)
    (session : Session prims config draws client identity normalized) {recipient : E2eRecipient}
    {envelope : KeyEnvelope}
    (wrapped : SealedFor prims draws.keyPairs client.payloadKey client.payloadKeyId
      client.keyContext recipient envelope)
    (same : recipient.publicKey = normalized.publicKey) :
    ∃ errorCode, errorCode.failed = false ∧
      envelopeKey prims client.getSessionKeyGrant normalized envelope =
        (client.payloadKey, errorCode) := by
  have made := PayloadCrypto.made_of_accepted session.accepted
  obtain ⟨index, errorCode, sealing⟩ := wrapped
  have named := recipientKeyId_of_hpkeSeal sealing
  cases drawn : draws.keyPairs index with
  | none =>
    rw [drawn] at sealing
    cases sealing
  | some pair =>
    rw [drawn, same] at sealing
    have sized := privateKey_of_normalizes session.normalizes ErrorCode.failed_none
    have nonempty : client.payloadKey ≠ [] := by
      apply List.ne_nil_of_length_pos
      rw [made.key]
      decide
    have short : client.payloadKey.length + 16 ≤ intMax := by
      rw [made.key]
      decide
    obtain ⟨clear, opened⟩ := hpkeOpen_of_hpkeSeal ideal (session.genuine index pair drawn) sized
      session.owned nonempty short sealing
    refine ⟨errorCode, clear, ?_⟩
    simp only [envelopeKey, PayloadCrypto.getSessionKeyGrant, made.suite, made.envelopeSuite,
      hpkeInfo_supported, hpkeAad_supported, named, opened]

/-- **The server gets the crypto of the client**, less the envelopes. -/
theorem server_eq_of_addressed (ideal : prims.Ideal)
    (session : Session prims config draws client identity normalized)
    (addressed : Addressed prims config normalized) :
    ∃ errorCode, errorCode.failed = false ∧
      makeE2eServerPayloadCrypto prims client.getSessionKeyGrant identity =
        (some { client with keyEnvelopes := [] }, errorCode) := by
  have made := PayloadCrypto.made_of_accepted session.accepted
  obtain ⟨recipient, envelope, first, firstEnvelope, wrapped, -⟩ := session.found
  obtain ⟨errorCode, clear, opened⟩ := session.opens ideal wrapped (addressed recipient first)
  refine ⟨errorCode, clear, ?_⟩
  rw [session.server_eq_openGrant, openGrant, firstEnvelope]
  simp only [opened, clear, made.key, ne_eq, not_true, or_false, Bool.false_eq_true, if_false]
  rfl

/-- A recipient behind another one of its key id gets no crypto. -/
theorem server_eq_none (session : Session prims config draws client identity normalized)
    (unaddressed : ¬ Addressed prims config normalized) :
    (makeE2eServerPayloadCrypto prims client.getSessionKeyGrant identity).1 = none := by
  obtain ⟨recipient, envelope, first, firstEnvelope, -, together⟩ := session.found
  have other : recipient.publicKey ≠ normalized.publicKey := by
    intro same
    apply unaddressed
    intro candidate matched
    rw [first] at matched
    cases matched
    exact same
  have shut := session.confined recipient envelope together other
  rw [session.server_eq_openGrant, openGrant, firstEnvelope]
  simp only [shut, true_or, if_true]

end Session

end Rstream.Webtty
