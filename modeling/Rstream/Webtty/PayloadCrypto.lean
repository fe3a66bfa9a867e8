import Rstream.Webtty.Types

/-!
# End-to-end encryption of payloads

The client draws a payload key, wraps it for every recipient with HPKE and sends
the wrapped keys in the session key grant; the server unwraps the one addressed to
it. Both sides then encrypt the payloads of the terminal streams with AES-256-GCM.

OpenSSL is a parameter (`Primitives`). The helpers of the source take the error
code by reference; here each takes it and returns it. Some of them clear it on
entry (`e2eKeyId`, `generateE2eIdentity`), some of them go on after an error.

`EVP_EncryptUpdate` and `EVP_DecryptUpdate` with a null output authenticate
additional data and set the length output to the number of bytes authenticated.
The source uses one variable for that length and for the length of the text, and
does not make the call for the text when the text is empty (`aesGcmEncrypt`,
`aesGcmDecrypt`).
-/

namespace Rstream.Webtty

open Library
open IoRstrm (ErrorCode)

/-- What the source uses of OpenSSL. An operation yields `none` when the calls it
stands for fail. -/
structure Primitives where
  sha256 : Bytes → Bytes
  /-- `HMAC` with `EVP_sha256`. -/
  hmac : Bytes → Bytes → Option Bytes
  /-- `EVP_PKEY_new_raw_private_key` and `EVP_PKEY_new_raw_public_key` yield a key. -/
  loadsPrivate : Bytes → Bool
  loadsPublic : Bytes → Bool
  /-- `EVP_PKEY_get_raw_public_key` of a private key. -/
  rawPublic : Bytes → Option Bytes
  /-- `EVP_PKEY_derive` of a private key and the public key of the peer. -/
  derive : Bytes → Bytes → Option Bytes
  /-- AES-256-GCM with key, nonce, additional data and plaintext: ciphertext and tag. -/
  gcmEncrypt : Bytes → Bytes → Bytes → Bytes → Option (Bytes × Bytes)
  /-- AES-256-GCM with key, nonce, additional data, ciphertext and tag: plaintext. -/
  gcmDecrypt : Bytes → Bytes → Bytes → Bytes → Bytes → Option Bytes
  hmac_length : ∀ key input digest, hmac key input = some digest → digest.length = 32
  sha256_length : ∀ input, (sha256 input).length = 32
  rawPublic_length : ∀ key public', rawPublic key = some public' → public'.length = 32
  gcmEncrypt_length : ∀ key nonce aad plaintext body tag,
    gcmEncrypt key nonce aad plaintext = some (body, tag) →
      body.length = plaintext.length ∧ tag.length = 16
  gcmDecrypt_length : ∀ key nonce aad body tag plaintext,
    gcmDecrypt key nonce aad body tag = some plaintext → plaintext.length = body.length

/-! ## Types -/

inductive PayloadStream where
  | stdIn | stdOut | stdErr
  deriving DecidableEq, Repr

structure KeyEnvelope where
  recipientKeyId : Bytes
  encapsulatedKey : Bytes
  wrappedKey : Bytes
  deriving DecidableEq

structure SessionKeyGrant where
  payloadSuite : PayloadCipherSuite := .unspecified
  payloadKeyId : Bytes
  keyEnvelopes : List KeyEnvelope
  keyContext : Bytes
  keyEnvelopeSuite : KeyEnvelopeSuite := .unspecified
  deriving DecidableEq

structure PayloadCryptoMetadata where
  payloadSuite : PayloadCipherSuite := .unspecified
  payloadKeyId : Bytes := []
  nonce : Bytes := []
  aadContext : Bytes := []
  deriving DecidableEq

structure EncryptedPayload where
  ciphertext : Bytes := []
  plaintextLength : UInt32 := 0
  payloadCrypto : PayloadCryptoMetadata := {}
  deriving DecidableEq

structure E2eIdentity where
  keyId : Bytes := []
  publicKey : Bytes := []
  privateKey : Bytes := []
  deriving DecidableEq

structure E2eRecipient where
  keyId : Bytes := []
  publicKey : Bytes
  deriving DecidableEq

structure E2ePayloadCryptoConfig where
  payloadSuite : PayloadCipherSuite := .aes256Gcm
  payloadKey : Bytes := []
  payloadKeyId : Bytes := []
  keyContext : Bytes := []
  keyEnvelopeSuite : KeyEnvelopeSuite := .hpkeX25519HkdfSha256Aes256Gcm
  recipients : List E2eRecipient := []
  deriving DecidableEq

/-- `e2e_payload_crypto_impl`. -/
structure PayloadCrypto where
  payloadSuite : PayloadCipherSuite
  payloadKey : Bytes
  payloadKeyId : Bytes
  keyContext : Bytes
  keyEnvelopeSuite : KeyEnvelopeSuite
  keyEnvelopes : List KeyEnvelope
  deriving DecidableEq

/-- `std::numeric_limits<int>::max()`. -/
abbrev intMax : Nat := 2 ^ 31 - 1

def setCryptoError (errorCode : ErrorCode) : ErrorCode :=
  if errorCode.failed then errorCode else Error.Code.cryptoError

def resize (bytes : Bytes) (size : Nat) : Bytes :=
  bytes.take size ++ List.replicate (size - bytes.length) 0

/-- `random_bytes`; the draw is `none` when `RAND_bytes` fails. -/
def randomBytes (draw : Option Bytes) (errorCode : ErrorCode) : Bytes × ErrorCode :=
  match draw with
  | none => ([], setCryptoError errorCode)
  | some bytes => (bytes, errorCode)

/-! ## What is authenticated -/

def hpkeInfoDomain : Bytes := bytesFromString "rstream-webtty-e2e-key/v1"

def payloadAadDomain : Bytes := bytesFromString "rstream-webtty-e2e-payload/v1"

def keyIdDomain : Bytes := bytesFromString "rstream-webtty-e2e-key-id/v1"

def hpkeInfo (payloadSuite : PayloadCipherSuite) (payloadKeyId keyContext : Bytes)
    (envelopeSuite : KeyEnvelopeSuite) (errorCode : ErrorCode) : Bytes × ErrorCode :=
  let (suiteCode, errorCode) := payloadSuiteCode payloadSuite errorCode
  let (envelopeCode, errorCode) := keyEnvelopeSuiteCode envelopeSuite errorCode
  if errorCode.failed then ([], errorCode)
  else (lengthPrefixed hpkeInfoDomain ++ word32 suiteCode ++
    word32 envelopeCode ++ lengthPrefixed payloadKeyId ++ lengthPrefixed keyContext,
    errorCode)

def hpkeAad (recipientKeyId : Bytes) (payloadSuite : PayloadCipherSuite)
    (payloadKeyId keyContext : Bytes) (envelopeSuite : KeyEnvelopeSuite)
    (errorCode : ErrorCode) : Bytes × ErrorCode :=
  let (suiteCode, errorCode) := payloadSuiteCode payloadSuite errorCode
  let (envelopeCode, errorCode) := keyEnvelopeSuiteCode envelopeSuite errorCode
  if errorCode.failed then ([], errorCode)
  else (lengthPrefixed (bytesFromString "key-wrap") ++ word32 suiteCode ++
    word32 envelopeCode ++ lengthPrefixed recipientKeyId ++
    lengthPrefixed payloadKeyId ++ lengthPrefixed keyContext, errorCode)

def payloadStreamName : PayloadStream → Bytes
  | .stdIn => bytesFromString "stdin"
  | .stdOut => bytesFromString "stdout"
  | .stdErr => bytesFromString "stderr"

def payloadAad (stream : PayloadStream) (suite : PayloadCipherSuite)
    (payloadKeyId keyContext nonce : Bytes) (plaintextLength : UInt32) (errorCode : ErrorCode) :
    Bytes × ErrorCode :=
  if (payloadStreamName stream).isEmpty then ([], Error.Code.cryptoError)
  else
    let (suiteCode, errorCode) := payloadSuiteCode suite errorCode
    if errorCode.failed then ([], errorCode)
    else (lengthPrefixed payloadAadDomain ++ lengthPrefixed (payloadStreamName stream) ++
      word32 suiteCode ++ lengthPrefixed payloadKeyId ++ lengthPrefixed keyContext ++
      lengthPrefixed nonce ++ word32 plaintextLength.toNat, errorCode)

section

variable (prims : Primitives)

/-! ## Key derivation -/

def hmacSha256 (key input : Bytes) (errorCode : ErrorCode) : Bytes × ErrorCode :=
  if key.length > intMax then ([], setCryptoError errorCode)
  else match prims.hmac key input with
    | none => ([], setCryptoError errorCode)
    | some digest => (digest, errorCode)

def hkdfExtract (salt ikm : Bytes) (errorCode : ErrorCode) : Bytes × ErrorCode :=
  hmacSha256 prims (if salt.isEmpty then List.replicate 32 0 else salt) ikm errorCode

/-- The loop of `hkdf_expand`; every round adds 32 bytes, so `length` rounds are enough. -/
def hkdfExpandLoop (prk info : Bytes) (length : Nat) :
    Nat → Bytes → Bytes → Nat → ErrorCode → Bytes × ErrorCode
  | 0, dst, _, _, errorCode => (dst, errorCode)
  | rounds + 1, dst, previous, counter, errorCode =>
    if length ≤ dst.length then (dst, errorCode)
    else
      let (previous, errorCode) :=
        hmacSha256 prims prk (previous ++ info ++ [UInt8.ofNat counter]) errorCode
      if errorCode.failed then (dst, errorCode)
      else hkdfExpandLoop prk info length rounds (dst ++ previous) previous (counter + 1)
        errorCode

def hkdfExpand (prk info : Bytes) (length : Nat) (errorCode : ErrorCode) : Bytes × ErrorCode :=
  if length = 0 then ([], errorCode)
  else if length > 255 * 32 then ([], setCryptoError errorCode)
  else
    let (dst, errorCode) := hkdfExpandLoop prims prk info length length [] [] 1 errorCode
    if errorCode.failed then (dst, errorCode) else (resize dst length, errorCode)

def dhkemSuiteId : Bytes := bytesFromString "KEM" ++ [0x00, 0x20]

def hpkeSuiteId : Bytes := bytesFromString "HPKE" ++ [0x00, 0x20, 0x00, 0x01, 0x00, 0x02]

def labeledExtract (suiteId salt : Bytes) (label : String) (ikm : Bytes)
    (errorCode : ErrorCode) : Bytes × ErrorCode :=
  hkdfExtract prims salt
    (bytesFromString "HPKE-v1" ++ suiteId ++ bytesFromString label ++ ikm) errorCode

def labeledExpand (suiteId prk : Bytes) (label : String) (info : Bytes) (length : Nat)
    (errorCode : ErrorCode) : Bytes × ErrorCode :=
  hkdfExpand prims prk
    (bigEndian 2 length ++ bytesFromString "HPKE-v1" ++ suiteId ++
      bytesFromString label ++ info) length errorCode

/-- `x25519_private_key`: whether there is a key, without which the caller stops but
raises no error. -/
def x25519PrivateKey (key : Bytes) (errorCode : ErrorCode) : Bool × ErrorCode :=
  if key.length ≠ 32 then (false, Error.Code.cryptoError) else (prims.loadsPrivate key, errorCode)

def x25519PublicKey (key : Bytes) (errorCode : ErrorCode) : Bool × ErrorCode :=
  if key.length ≠ 32 then (false, Error.Code.cryptoError) else (prims.loadsPublic key, errorCode)

def x25519PublicFromPrivate (key : Bytes) (errorCode : ErrorCode) : Bytes × ErrorCode :=
  let (loaded, errorCode) := x25519PrivateKey prims key errorCode
  if errorCode.failed ∨ loaded = false then ([], errorCode)
  else match prims.rawPublic key with
    | none => ([], setCryptoError errorCode)
    | some publicKey => (publicKey, errorCode)

def x25519Dh (privateKey peer : Bytes) (errorCode : ErrorCode) : Bytes × ErrorCode :=
  let (loaded, errorCode) := x25519PrivateKey prims privateKey errorCode
  let (loadedPeer, errorCode) := x25519PublicKey prims peer errorCode
  if errorCode.failed ∨ loaded = false ∨ loadedPeer = false then ([], errorCode)
  else match prims.derive privateKey peer with
    | none => ([], setCryptoError errorCode)
    | some secret =>
      if secret.all (· == 0) then ([], setCryptoError errorCode) else (secret, errorCode)

def dhkemExtractAndExpand (dh kemContext : Bytes) (errorCode : ErrorCode) : Bytes × ErrorCode :=
  let (prk, errorCode) := labeledExtract prims dhkemSuiteId [] "eae_prk" dh errorCode
  if errorCode.failed then ([], errorCode)
  else labeledExpand prims dhkemSuiteId prk "shared_secret" kemContext 32 errorCode

structure HpkeSchedule where
  key : Bytes := []
  baseNonce : Bytes := []

def hpkeKeySchedule (sharedSecret info : Bytes) (errorCode : ErrorCode) :
    HpkeSchedule × ErrorCode :=
  let (pskIdHash, errorCode) := labeledExtract prims hpkeSuiteId [] "psk_id_hash" [] errorCode
  let (infoHash, errorCode) := labeledExtract prims hpkeSuiteId [] "info_hash" info errorCode
  if errorCode.failed then ({}, errorCode)
  else
    let context := [0] ++ pskIdHash ++ infoHash
    let (secret, errorCode) := labeledExtract prims hpkeSuiteId sharedSecret "secret" [] errorCode
    if errorCode.failed then ({}, errorCode)
    else
      let (baseNonce, errorCode) :=
        labeledExpand prims hpkeSuiteId secret "base_nonce" context 12 errorCode
      let (key, errorCode) := labeledExpand prims hpkeSuiteId secret "key" context 32 errorCode
      ({ key, baseNonce }, errorCode)

/-! ## AES-GCM -/

/-- `EVP_EncryptUpdate` or `EVP_DecryptUpdate` for additional data, whose size is cast to
`int`: the number of bytes authenticated. A negative size is refused. No call is made
for empty data. -/
def authenticate (aad : Bytes) : Option Nat :=
  if aad.length % 2 ^ 32 < 2 ^ 31 then some (aad.length % 2 ^ 32) else none

def aesGcmEncrypt (key nonce plaintext aad : Bytes) (errorCode : ErrorCode) :
    Bytes × ErrorCode :=
  if key.length ≠ 32 ∨ nonce.length ≠ 12 ∨ plaintext.length > intMax then
    ([], Error.Code.cryptoError)
  else match authenticate aad with
    | none => ([], setCryptoError errorCode)
    | some outLen =>
      match prims.gcmEncrypt key nonce (aad.take outLen) plaintext with
      | none => ([], setCryptoError errorCode)
      | some (body, tag) =>
        -- `out_len` still holds the length of the additional data when there is no text.
        let total := if plaintext.isEmpty then outLen else plaintext.length
        (resize (body ++ List.replicate 16 0) total ++ tag, errorCode)

def aesGcmDecrypt (key nonce ciphertext aad : Bytes) (errorCode : ErrorCode) :
    Bytes × ErrorCode :=
  if key.length ≠ 32 ∨ nonce.length ≠ 12 ∨ ciphertext.length < 16 ∨
      ciphertext.length > intMax then ([], Error.Code.cryptoError)
  else match authenticate aad with
    | none => ([], setCryptoError errorCode)
    | some outLen =>
      let encryptedSize := ciphertext.length - 16
      match prims.gcmDecrypt key nonce (aad.take outLen) (ciphertext.take encryptedSize)
        (ciphertext.drop encryptedSize) with
      | none => ([], setCryptoError errorCode)
      | some plaintext =>
        let total := if encryptedSize = 0 then outLen else encryptedSize
        (resize plaintext total, errorCode)

/-! ## Identities -/

/-- `e2e_key_id`. It clears the error code first. -/
def e2eKeyId (publicKey : Bytes) : Bytes × ErrorCode :=
  if publicKey.length ≠ 32 then ([], Error.Code.cryptoError)
  else ((prims.sha256 (keyIdDomain ++ publicKey)).take 16, .none)

def normalizeIdentity (src : E2eIdentity) (errorCode : ErrorCode) : E2eIdentity × ErrorCode :=
  if src.privateKey.length ≠ 32 then (src, Error.Code.cryptoError)
  else
    let (publicKey, errorCode) :=
      if src.publicKey.isEmpty then x25519PublicFromPrivate prims src.privateKey errorCode
      else (src.publicKey, errorCode)
    let dst := { src with publicKey }
    if src.publicKey.isEmpty ∧ errorCode.failed then (dst, errorCode)
    else if dst.publicKey.length ≠ 32 then (dst, Error.Code.cryptoError)
    else if dst.keyId.isEmpty then
      let (keyId, errorCode) := e2eKeyId prims dst.publicKey
      ({ dst with keyId }, errorCode)
    else if dst.keyId.length ≠ 16 then (dst, Error.Code.cryptoError)
    else (dst, errorCode)

/-- What `EVP_PKEY_keygen` and the reading of its key yield. -/
structure KeyPair where
  privateKey : Option Bytes
  publicKey : Option Bytes

/-- `generate_e2e_identity`; the draw is `none` when no key is generated. -/
def generateE2eIdentity (draw : Option KeyPair) : E2eIdentity × ErrorCode :=
  match draw with
  | none => ({}, Error.Code.cryptoError)
  | some pair =>
    let publicKey := pair.publicKey.getD []
    let (keyId, errorCode) := e2eKeyId prims publicKey
    ({ keyId, publicKey, privateKey := pair.privateKey.getD [] }, errorCode)

/-! ## HPKE -/

/-- The part of `hpke_seal` and `hpke_open` that derives the key of the envelope. -/
def hpkeDerive (privateKey peer kemContext info : Bytes) (errorCode : ErrorCode) :
    HpkeSchedule × ErrorCode :=
  let (dh, errorCode) := x25519Dh prims privateKey peer errorCode
  let (sharedSecret, errorCode) := dhkemExtractAndExpand prims dh kemContext errorCode
  hpkeKeySchedule prims sharedSecret info errorCode

def hpkeSeal (draw : Option KeyPair) (recipientKeyId recipientPublicKey info aad plaintext : Bytes) :
    Option KeyEnvelope × ErrorCode :=
  let (ephemeral, errorCode) := generateE2eIdentity prims draw
  if errorCode.failed then (none, errorCode)
  else
    let (schedule, errorCode) := hpkeDerive prims ephemeral.privateKey recipientPublicKey
      (ephemeral.publicKey ++ recipientPublicKey) info errorCode
    let (wrappedKey, errorCode) :=
      aesGcmEncrypt prims schedule.key schedule.baseNonce plaintext aad errorCode
    if errorCode.failed then (none, errorCode)
    else (some ⟨recipientKeyId, ephemeral.publicKey, wrappedKey⟩, errorCode)

def hpkeOpen (identity : E2eIdentity) (envelope : KeyEnvelope) (info aad : Bytes)
    (errorCode : ErrorCode) : Bytes × ErrorCode :=
  let (schedule, errorCode) := hpkeDerive prims identity.privateKey envelope.encapsulatedKey
    (envelope.encapsulatedKey ++ identity.publicKey) info errorCode
  aesGcmDecrypt prims schedule.key schedule.baseNonce envelope.wrappedKey aad errorCode

/-! ## Payloads -/

namespace PayloadCrypto

def getSessionKeyGrant (crypto : PayloadCrypto) : SessionKeyGrant where
  payloadSuite := crypto.payloadSuite
  payloadKeyId := crypto.payloadKeyId
  keyEnvelopes := crypto.keyEnvelopes
  keyContext := crypto.keyContext
  keyEnvelopeSuite := crypto.keyEnvelopeSuite

/-- `encrypt`, with the nonce that is drawn. -/
def encrypt (crypto : PayloadCrypto) (draw : Option Bytes) (stream : PayloadStream)
    (plaintext : Bytes) : EncryptedPayload × ErrorCode :=
  if plaintext.length > 2 ^ 32 - 1 then ({}, Error.Code.cryptoError)
  else
    let (nonce, errorCode) := randomBytes draw .none
    let plainLength := UInt32.ofNat plaintext.length
    let (aad, errorCode) := payloadAad stream crypto.payloadSuite crypto.payloadKeyId
      crypto.keyContext nonce plainLength errorCode
    let (ciphertext, errorCode) :=
      aesGcmEncrypt prims crypto.payloadKey nonce plaintext aad errorCode
    ({ ciphertext
       plaintextLength := plainLength
       payloadCrypto := ⟨crypto.payloadSuite, crypto.payloadKeyId, nonce, crypto.keyContext⟩ },
      errorCode)

/-- `decrypt`. `dst` is the content of the vector passed for the plaintext. -/
def decrypt (crypto : PayloadCrypto) (stream : PayloadStream) (src : EncryptedPayload)
    (dst : Bytes) : Bytes × ErrorCode :=
  if src.payloadCrypto.payloadSuite ≠ crypto.payloadSuite ∨
      src.payloadCrypto.payloadKeyId ≠ crypto.payloadKeyId ∨
      src.payloadCrypto.aadContext ≠ crypto.keyContext ∨
      src.payloadCrypto.nonce.length ≠ 12 then (dst, Error.Code.cryptoError)
  else
    let (aad, errorCode) := payloadAad stream src.payloadCrypto.payloadSuite
      src.payloadCrypto.payloadKeyId src.payloadCrypto.aadContext src.payloadCrypto.nonce
      src.plaintextLength .none
    let (plaintext, errorCode) := aesGcmDecrypt prims crypto.payloadKey src.payloadCrypto.nonce
      src.ciphertext aad errorCode
    if errorCode.failed = false ∧ plaintext.length ≠ src.plaintextLength.toNat then
      ([], Error.Code.cryptoError)
    else (plaintext, errorCode)

end PayloadCrypto

def validatePayloadSuite (suite : PayloadCipherSuite) (errorCode : ErrorCode) : ErrorCode :=
  if suite ≠ .aes256Gcm then Error.Code.cryptoError else errorCode

def validateKeyEnvelopeSuite (suite : KeyEnvelopeSuite) (errorCode : ErrorCode) : ErrorCode :=
  if suite ≠ .hpkeX25519HkdfSha256Aes256Gcm then Error.Code.cryptoError else errorCode

/-- The draws of `make_e2e_client_payload_crypto`, the key pairs by recipient. -/
structure ClientDraws where
  payloadKey : Option Bytes
  payloadKeyId : Option Bytes
  keyPairs : Nat → Option KeyPair

/-- The key id under which a recipient is addressed. -/
def recipientKeyId (recipient : E2eRecipient) : Bytes × ErrorCode :=
  if recipient.keyId.isEmpty then e2eKeyId prims recipient.publicKey
  else (recipient.keyId, .none)

/-- The loop of `make_e2e_client_payload_crypto` over the recipients, from an index on. -/
def sealRecipients (config : E2ePayloadCryptoConfig) (payloadKey payloadKeyId : Bytes)
    (keyPairs : Nat → Option KeyPair) :
    List E2eRecipient → Nat → Option (List KeyEnvelope) × ErrorCode
  | [], _ => (some [], .none)
  | recipient :: recipients, index =>
    if recipient.publicKey.length ≠ 32 then (none, Error.Code.cryptoError)
    else
      let (keyId, errorCode) := recipientKeyId prims recipient
      if errorCode.failed then (none, errorCode)
      else if keyId.length ≠ 16 then (none, Error.Code.cryptoError)
      else
        let (info, errorCode) := hpkeInfo config.payloadSuite payloadKeyId config.keyContext
          config.keyEnvelopeSuite errorCode
        let (aad, errorCode) := hpkeAad keyId config.payloadSuite payloadKeyId
          config.keyContext config.keyEnvelopeSuite errorCode
        if errorCode.failed then (none, errorCode)
        else match hpkeSeal prims (keyPairs index) keyId recipient.publicKey info aad
            payloadKey with
          | (none, errorCode) => (none, errorCode)
          | (some envelope, errorCode) =>
            if errorCode.failed then (none, errorCode)
            else match sealRecipients config payloadKey payloadKeyId keyPairs recipients
                (index + 1) with
              | (none, errorCode) => (none, errorCode)
              | (some envelopes, errorCode) => (some (envelope :: envelopes), errorCode)

def makeE2eClientPayloadCrypto (config : E2ePayloadCryptoConfig) (draws : ClientDraws) :
    Option PayloadCrypto × ErrorCode :=
  let errorCode := validatePayloadSuite config.payloadSuite .none
  let errorCode := validateKeyEnvelopeSuite config.keyEnvelopeSuite errorCode
  if errorCode.failed then (none, errorCode)
  else
    let (payloadKey, errorCode) :=
      if config.payloadKey.isEmpty then randomBytes draws.payloadKey errorCode
      else (config.payloadKey, errorCode)
    if payloadKey.length ≠ 32 then (none, Error.Code.cryptoError)
    else
      let (payloadKeyId, errorCode) :=
        if config.payloadKeyId.isEmpty then randomBytes draws.payloadKeyId errorCode
        else (config.payloadKeyId, errorCode)
      if payloadKeyId.length ≠ 16 ∨ config.recipients.isEmpty then
        (none, Error.Code.cryptoError)
      else match sealRecipients prims config payloadKey payloadKeyId draws.keyPairs
          config.recipients 0 with
        | (none, errorCode) => (none, errorCode)
        | (some keyEnvelopes, _) =>
          (some ⟨config.payloadSuite, payloadKey, payloadKeyId, config.keyContext,
            config.keyEnvelopeSuite, keyEnvelopes⟩, errorCode)

/-- `make_e2e_server_payload_crypto`. The error code of the two suite checks is looked at
only after `normalize_identity`. -/
def makeE2eServerPayloadCrypto (grant : SessionKeyGrant) (identity : E2eIdentity) :
    Option PayloadCrypto × ErrorCode :=
  let errorCode := validatePayloadSuite grant.payloadSuite .none
  let errorCode := validateKeyEnvelopeSuite grant.keyEnvelopeSuite errorCode
  if grant.payloadKeyId.length ≠ 16 then (none, Error.Code.cryptoError)
  else
    let (normalized, errorCode) := normalizeIdentity prims identity errorCode
    if errorCode.failed then (none, errorCode)
    else match grant.keyEnvelopes.find? (·.recipientKeyId == normalized.keyId) with
      | none => (none, Error.Code.cryptoError)
      | some matched =>
        let (info, errorCode) := hpkeInfo grant.payloadSuite grant.payloadKeyId
          grant.keyContext grant.keyEnvelopeSuite errorCode
        let (aad, errorCode) := hpkeAad matched.recipientKeyId grant.payloadSuite
          grant.payloadKeyId grant.keyContext grant.keyEnvelopeSuite errorCode
        let (payloadKey, errorCode) := hpkeOpen prims normalized matched info aad errorCode
        if errorCode.failed ∨ payloadKey.length ≠ 32 then (none, Error.Code.cryptoError)
        else (some ⟨grant.payloadSuite, payloadKey, grant.payloadKeyId, grant.keyContext,
          grant.keyEnvelopeSuite, []⟩, errorCode)

end

end Rstream.Webtty
