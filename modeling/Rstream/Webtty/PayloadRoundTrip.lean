import Rstream.Webtty.KeyEnvelopes

/-!
# Round trip and binding of payloads

What one side encrypts the other side decrypts, and nobody decrypts it as something
else: the additional data of a payload holds its stream, key id, key context, nonce
and length. Four things stand in the way (`Travels`).

* The length output of the call that authenticates the additional data is taken for
  the length of the text when the text is empty, so the ciphertext of an empty text
  is too long.
* `encrypt` takes texts up to `INT_MAX`, `decrypt` ciphertexts up to `INT_MAX`, and a
  ciphertext is 16 bytes longer.
* `decrypt` leaves the output alone when the metadata does not match.
* The size of the additional data is cast to `int`: with a key context of gigabytes it
  is refused, or cut, in the extreme before the name of the stream.

A server gets the key only through the first envelope with its key id (`Addressed`).
-/

namespace Rstream.Webtty

open Library List
open IoRstrm (ErrorCode)

variable {prims : Primitives}

/-! ## The additional data -/

/-- `payload_aad` under AES-256-GCM. -/
def aadOf (stream : PayloadStream) (payloadKeyId keyContext nonce : Bytes)
    (plaintextLength : UInt32) : Bytes :=
  (payloadAad stream .aes256Gcm payloadKeyId keyContext nonce plaintextLength .none).1

theorem payloadAad_aes (stream : PayloadStream) (payloadKeyId keyContext nonce : Bytes)
    (plaintextLength : UInt32) :
    payloadAad stream .aes256Gcm payloadKeyId keyContext nonce plaintextLength .none =
      (aadOf stream payloadKeyId keyContext nonce plaintextLength, .none) := by
  cases stream <;> rfl

/-- The part of the additional data up to the name of the stream. -/
def aadHead (stream : PayloadStream) : Bytes :=
  lengthPrefixed payloadAadDomain ++ lengthPrefixed (payloadStreamName stream)

/-- The part of the additional data after the name of the stream. -/
def aadTail (payloadKeyId keyContext nonce : Bytes) (plaintextLength : UInt32) : Bytes :=
  word32 1 ++ lengthPrefixed payloadKeyId ++ lengthPrefixed keyContext ++
    lengthPrefixed nonce ++ word32 plaintextLength.toNat

theorem aadOf_eq (stream : PayloadStream) (payloadKeyId keyContext nonce : Bytes)
    (plaintextLength : UInt32) :
    aadOf stream payloadKeyId keyContext nonce plaintextLength =
      aadHead stream ++ aadTail payloadKeyId keyContext nonce plaintextLength := by
  cases stream <;> simp only [aadHead, aadTail, append_assoc] <;>
    simp only [← append_assoc] <;> rfl

/-- The size of the additional data. -/
def aadSize (stream : PayloadStream) (keyContext : Bytes) : Nat :=
  85 + (payloadStreamName stream).length + keyContext.length

theorem length_lengthPrefixed (value : Bytes) :
    (lengthPrefixed value).length = 4 + value.length := by
  rw [lengthPrefixed, length_append, length_bigEndian]

theorem length_aadOf (stream : PayloadStream) {payloadKeyId nonce : Bytes} (keyContext : Bytes)
    (plaintextLength : UInt32) (named : payloadKeyId.length = 16) (drawn : nonce.length = 12) :
    (aadOf stream payloadKeyId keyContext nonce plaintextLength).length =
      aadSize stream keyContext := by
  have domain : payloadAadDomain.length = 29 := by decide
  simp only [aadOf_eq, aadHead, aadTail, length_append, length_lengthPrefixed,
    length_bigEndian, domain, named, drawn, aadSize]
  omega

/-- How much of the additional data is authenticated. -/
def authenticatedSize (stream : PayloadStream) (keyContext : Bytes) : Nat :=
  aadSize stream keyContext % 2 ^ 32

theorem authenticatedSize_le (stream : PayloadStream) (keyContext : Bytes) :
    authenticatedSize stream keyContext ≤ aadSize stream keyContext := Nat.mod_le _ _

theorem authenticate_aadOf (stream : PayloadStream) {payloadKeyId nonce : Bytes}
    (keyContext : Bytes) (plaintextLength : UInt32) (named : payloadKeyId.length = 16)
    (drawn : nonce.length = 12) :
    authenticate (aadOf stream payloadKeyId keyContext nonce plaintextLength) =
      if authenticatedSize stream keyContext < 2 ^ 31 then
        some (authenticatedSize stream keyContext) else none := by
  rw [authenticate, length_aadOf stream keyContext plaintextLength named drawn, authenticatedSize]

/-- The streams of the output have names of the same size, which differ from byte 40 on. -/
theorem aadHead_output {stream other : PayloadStream} (output : stream ≠ .stdIn)
    (otherOutput : other ≠ .stdIn) :
    (aadHead stream).take 40 = (aadHead other).take 40 ∧
      (payloadStreamName stream).length = (payloadStreamName other).length ∧
      (stream ≠ other → (aadHead stream)[40]? ≠ (aadHead other)[40]?) := by
  cases stream <;> cases other <;> first
    | exact absurd rfl output
    | exact absurd rfl otherOutput
    | decide

theorem length_aadHead (stream : PayloadStream) : 42 ≤ (aadHead stream).length := by
  cases stream <;> decide

theorem getElem?_aadOf (stream : PayloadStream) (payloadKeyId keyContext nonce : Bytes)
    (plaintextLength : UInt32) :
    (aadOf stream payloadKeyId keyContext nonce plaintextLength)[40]? = (aadHead stream)[40]? := by
  have long := length_aadHead stream
  rw [aadOf_eq, getElem?_append_left (by omega)]

theorem length_payloadStreamName (stream : PayloadStream) :
    (payloadStreamName stream).length = if stream = .stdIn then 5 else 6 := by
  cases stream <;> decide

section

variable {stream other : PayloadStream} {payloadKeyId keyContext nonce otherNonce : Bytes}
  {plaintextLength otherLength : UInt32}

/-- What is authenticated tells the stream, unless it ends before its name does. -/
theorem stream_of_authenticated (named : payloadKeyId.length = 16) (drawn : nonce.length = 12)
    (otherDrawn : otherNonce.length = 12)
    (told : stream = .stdIn ∨ 40 < authenticatedSize stream keyContext)
    (same : (aadOf other payloadKeyId keyContext otherNonce otherLength).take
        (authenticatedSize other keyContext) =
      (aadOf stream payloadKeyId keyContext nonce plaintextLength).take
        (authenticatedSize stream keyContext)) :
    other = stream := by
  have sizes : authenticatedSize other keyContext = authenticatedSize stream keyContext := by
    have lengths := congrArg length same
    rw [length_take, length_take, length_aadOf other keyContext _ named otherDrawn,
      length_aadOf stream keyContext _ named drawn, min_eq_left (authenticatedSize_le _ _),
      min_eq_left (authenticatedSize_le _ _)] at lengths
    exact lengths
  have inputs : other = .stdIn ↔ stream = .stdIn := by
    have otherName := length_payloadStreamName other
    have name := length_payloadStreamName stream
    simp only [authenticatedSize, aadSize] at sizes
    constructor
    · intro input
      by_contra output
      rw [if_pos input] at otherName
      rw [if_neg output] at name
      omega
    · intro input
      by_contra output
      rw [if_neg output] at otherName
      rw [if_pos input] at name
      omega
  by_cases input : stream = .stdIn
  · rw [input, inputs.mpr input]
  · by_contra different
    have long := told.resolve_left input
    have heads := (aadHead_output (fun otherInput => input (inputs.mp otherInput)) input).2.2
      different
    apply heads
    have bytes := congrArg (·[40]?) same
    simp only [sizes, getElem?_take_of_lt long, getElem?_aadOf] at bytes
    exact bytes

theorem authenticated_of_output (payloadKeyId nonce : Bytes) (plaintextLength : UInt32)
    (output : stream ≠ .stdIn) (otherOutput : other ≠ .stdIn)
    (cut : authenticatedSize stream keyContext ≤ 40) :
    authenticatedSize other keyContext = authenticatedSize stream keyContext ∧
      (aadOf other payloadKeyId keyContext nonce plaintextLength).take
          (authenticatedSize other keyContext) =
        (aadOf stream payloadKeyId keyContext nonce plaintextLength).take
          (authenticatedSize stream keyContext) := by
  obtain ⟨heads, names, -⟩ := aadHead_output otherOutput output
  have sizes : authenticatedSize other keyContext = authenticatedSize stream keyContext := by
    rw [authenticatedSize, authenticatedSize, aadSize, aadSize, names]
  refine ⟨sizes, ?_⟩
  have long := length_aadHead stream
  have otherLong := length_aadHead other
  have prefixes := congrArg (take (authenticatedSize stream keyContext)) heads
  rw [take_take, take_take, min_eq_left cut] at prefixes
  rw [sizes, aadOf_eq, aadOf_eq, take_append_of_le_length (by omega),
    take_append_of_le_length (by omega), prefixes]

end

/-! ## Encryption and decryption -/

namespace PayloadCrypto

/-- The crypto has its suite, key and key id. -/
structure Ready (crypto : PayloadCrypto) : Prop where
  suite : crypto.payloadSuite = .aes256Gcm
  key : crypto.payloadKey.length = 32
  keyId : crypto.payloadKeyId.length = 16

theorem Made.ready {config : E2ePayloadCryptoConfig} {keyPairs : Nat → Option KeyPair}
    {client : PayloadCrypto} (made : client.Made prims config keyPairs) : client.Ready :=
  ⟨made.suite, made.key, made.keyId⟩

/-- The metadata of what the crypto encrypts. -/
def metadata (crypto : PayloadCrypto) (nonce : Bytes) : PayloadCryptoMetadata :=
  ⟨crypto.payloadSuite, crypto.payloadKeyId, nonce, crypto.keyContext⟩

/-- The additional data of what the crypto encrypts, as far as it is authenticated. -/
def authenticatedAad (crypto : PayloadCrypto) (stream : PayloadStream) (nonce : Bytes)
    (plaintextLength : UInt32) : Bytes :=
  (aadOf stream crypto.payloadKeyId crypto.keyContext nonce plaintextLength).take
    (authenticatedSize stream crypto.keyContext)

variable {crypto : PayloadCrypto} {stream : PayloadStream} {nonce plaintext : Bytes}

theorem encrypt_refused (prims : Primitives) (plaintext : Bytes) (ready : crypto.Ready)
    (drawn : nonce.length = 12) (refused : ¬ authenticatedSize stream crypto.keyContext < 2 ^ 31) :
    (crypto.encrypt prims (some nonce) stream plaintext).2.failed = true := by
  rw [encrypt]
  split
  · rfl
  · simp only [randomBytes, ready.suite, payloadAad_aes, aesGcmEncrypt,
      authenticate_aadOf stream crypto.keyContext _ ready.keyId drawn, if_neg refused]
    split
    · rfl
    · rfl

/-- An encryption otherwise yields the text and the tag, the text as long as it should be
unless it is empty. -/
theorem encrypt_eq (ideal : prims.Ideal) (ready : crypto.Ready) (drawn : nonce.length = 12)
    (short : plaintext.length < 2 ^ 31)
    (sized : authenticatedSize stream crypto.keyContext < 2 ^ 31) :
    ∃ body tag,
      prims.gcmEncrypt crypto.payloadKey nonce
        (crypto.authenticatedAad stream nonce (UInt32.ofNat plaintext.length)) plaintext =
          some (body, tag) ∧
      body.length = plaintext.length ∧ tag.length = 16 ∧
      crypto.encrypt prims (some nonce) stream plaintext =
        (⟨(if plaintext.isEmpty then
            replicate (authenticatedSize stream crypto.keyContext) 0 else body) ++ tag,
          UInt32.ofNat plaintext.length, crypto.metadata nonce⟩, .none) := by
  obtain ⟨⟨body, tag⟩, encrypted⟩ := Option.isSome_iff_exists.mp
    (ideal.gcmEncrypts crypto.payloadKey nonce
      (crypto.authenticatedAad stream nonce (UInt32.ofNat plaintext.length)) plaintext
      ready.key drawn)
  obtain ⟨bodied, tagged⟩ := prims.gcmEncrypt_length _ _ _ _ _ _ encrypted
  refine ⟨body, tag, encrypted, bodied, tagged, ?_⟩
  rw [authenticatedAad] at encrypted
  have sizes : ¬ (crypto.payloadKey.length ≠ 32 ∨ nonce.length ≠ 12 ∨
      plaintext.length > intMax) := by
    have key := ready.key
    have greatest : intMax = 2 ^ 31 - 1 := rfl
    omega
  have small : ¬ plaintext.length > 2 ^ 32 - 1 := by omega
  simp only [encrypt, if_neg small, randomBytes, ready.suite, payloadAad_aes, aesGcmEncrypt,
    if_neg sizes, authenticate_aadOf stream crypto.keyContext _ ready.keyId drawn, if_pos sized,
    encrypted, metadata]
  by_cases empty : plaintext.isEmpty = true
  · have bodyEmpty : body = [] := by
      apply length_eq_zero_iff.mp
      rw [bodied, isEmpty_iff.mp empty, length_nil]
    have total : min (authenticatedSize stream crypto.keyContext) 16 +
        (authenticatedSize stream crypto.keyContext - 16) =
          authenticatedSize stream crypto.keyContext := by omega
    rw [if_pos empty, if_pos empty, bodyEmpty, nil_append, resize, take_replicate,
      length_replicate, replicate_append_replicate, total]
  · rw [if_neg empty, if_neg empty, ← bodied, resize_append_length]

theorem decrypt_mismatched {src : EncryptedPayload} {dst : Bytes}
    (other : ∀ nonce, nonce.length = 12 → src.payloadCrypto ≠ crypto.metadata nonce) :
    crypto.decrypt prims stream src dst = (dst, Error.Code.cryptoError.toErrorCode) := by
  rw [decrypt, if_pos]
  by_contra matched
  simp only [not_or, not_not] at matched
  obtain ⟨suite, keyId, context, drawn⟩ := matched
  apply other _ drawn
  rw [metadata, ← suite, ← keyId, ← context]

/-- Metadata of the same parameters leaves the decision to the cipher. -/
theorem decrypt_append (ready : crypto.Ready) (drawn : nonce.length = 12) {body tag : Bytes}
    (short : body.length + 16 ≤ intMax) (tagged : tag.length = 16) (plaintextLength : UInt32)
    (dst : Bytes) :
    crypto.decrypt prims stream ⟨body ++ tag, plaintextLength, crypto.metadata nonce⟩ dst =
      if authenticatedSize stream crypto.keyContext < 2 ^ 31 then
        match prims.gcmDecrypt crypto.payloadKey nonce
          (crypto.authenticatedAad stream nonce plaintextLength) body tag with
        | none => ([], Error.Code.cryptoError.toErrorCode)
        | some text =>
          let text := resize text (if body.length = 0 then
            authenticatedSize stream crypto.keyContext else body.length)
          if text.length ≠ plaintextLength.toNat then ([], Error.Code.cryptoError.toErrorCode)
          else (text, .none)
      else ([], Error.Code.cryptoError.toErrorCode) := by
  simp only [decrypt, metadata, ready.suite, drawn, ne_eq, not_true, or_false, if_false,
    payloadAad_aes, aesGcmDecrypt_append _ _ ready.key drawn short tagged,
    authenticate_aadOf stream crypto.keyContext _ ready.keyId drawn, authenticatedAad]
  by_cases sized : authenticatedSize stream crypto.keyContext < 2 ^ 31
  · simp only [if_pos sized]
    cases prims.gcmDecrypt crypto.payloadKey nonce
      ((aadOf stream crypto.payloadKeyId crypto.keyContext nonce plaintextLength).take
        (authenticatedSize stream crypto.keyContext)) body tag with
    | none => rfl
    | some text => simp only [ErrorCode.failed_none, true_and]
  · simp only [if_neg sized]
    rfl

end PayloadCrypto

/-! ## The round trip -/

/-- What the receiver makes of a payload of the sender, over an output that holds `dst`:
the text, or an error and an empty text when anything but the ciphertext is changed. -/
structure Delivers (prims : Primitives) (sender receiver : PayloadCrypto) (nonce : Bytes)
    (stream : PayloadStream) (plaintext dst : Bytes) : Prop where
  sent : (sender.encrypt prims (some nonce) stream plaintext).2.failed = false
  received : receiver.decrypt prims stream
    (sender.encrypt prims (some nonce) stream plaintext).1 dst = (plaintext, .none)
  bound : ∀ other plaintextLength payloadCrypto,
    (other, plaintextLength, payloadCrypto) ≠
      (stream, (sender.encrypt prims (some nonce) stream plaintext).1.plaintextLength,
        (sender.encrypt prims (some nonce) stream plaintext).1.payloadCrypto) →
    (receiver.decrypt prims other
      { (sender.encrypt prims (some nonce) stream plaintext).1 with
        plaintextLength, payloadCrypto } dst).1 = [] ∧
    (receiver.decrypt prims other
      { (sender.encrypt prims (some nonce) stream plaintext).1 with
        plaintextLength, payloadCrypto } dst).2.failed = true

/-- The tag of an encryption is one of nothing else under the key. -/
def Binds (prims : Primitives) (key nonce aad plaintext : Bytes) : Prop :=
  ∀ body tag, prims.gcmEncrypt key nonce aad plaintext = some (body, tag) →
    ∀ otherNonce otherAad otherBody text,
      prims.gcmDecrypt key otherNonce otherAad otherBody tag = some text →
        otherNonce = nonce ∧ otherAad = aad ∧ otherBody = body

/-- The condition for a payload to travel. -/
structure Travels (keyContext : Bytes) (stream : PayloadStream) (plaintext dst : Bytes) :
    Prop where
  fresh : dst = []
  short : plaintext.length + 16 ≤ intMax
  sized : authenticatedSize stream keyContext < 2 ^ 31
  told : stream = .stdIn ∨ 40 < authenticatedSize stream keyContext
  nonempty : plaintext ≠ [] ∨ authenticatedSize stream keyContext = 0

section

variable {crypto : PayloadCrypto} {stream : PayloadStream} {nonce plaintext dst : Bytes}

theorem toNat_length (short : plaintext.length < 2 ^ 31) :
    (UInt32.ofNat plaintext.length).toNat = plaintext.length := by
  rw [UInt32.toNat_ofNat']
  exact Nat.mod_eq_of_lt (by omega)

/-- A text is encrypted to as many bytes and the tag, unless it is empty and something was
authenticated before it. -/
theorem encrypt_eq_append (ideal : prims.Ideal) (ready : crypto.Ready) (drawn : nonce.length = 12)
    (short : plaintext.length < 2 ^ 31)
    (sized : authenticatedSize stream crypto.keyContext < 2 ^ 31)
    (nonempty : plaintext ≠ [] ∨ authenticatedSize stream crypto.keyContext = 0) :
    ∃ body tag,
      prims.gcmEncrypt crypto.payloadKey nonce
        (crypto.authenticatedAad stream nonce (UInt32.ofNat plaintext.length)) plaintext =
          some (body, tag) ∧
      body.length = plaintext.length ∧ tag.length = 16 ∧
      crypto.encrypt prims (some nonce) stream plaintext =
        (⟨body ++ tag, UInt32.ofNat plaintext.length, crypto.metadata nonce⟩, .none) := by
  obtain ⟨body, tag, encrypted, bodied, tagged, result⟩ :=
    PayloadCrypto.encrypt_eq ideal ready drawn short sized
  refine ⟨body, tag, encrypted, bodied, tagged, ?_⟩
  by_cases empty : plaintext = []
  · have bodyEmpty : body = [] := by
      apply length_eq_zero_iff.mp
      rw [bodied, empty, length_nil]
    rw [result, empty, bodyEmpty, nonempty.resolve_left (not_not.mpr empty)]
    rfl
  · rw [result, if_neg (fun isEmpty => empty (isEmpty_iff.mp isEmpty))]

/-- **A payload that travels is delivered.** -/
theorem Travels.delivers (ideal : prims.Ideal) (ready : crypto.Ready) (drawn : nonce.length = 12)
    (binds : Binds prims crypto.payloadKey nonce
      (crypto.authenticatedAad stream nonce (UInt32.ofNat plaintext.length)) plaintext)
    (travels : Travels crypto.keyContext stream plaintext dst) :
    Delivers prims crypto crypto nonce stream plaintext dst := by
  have greatest : intMax = 2 ^ 31 - 1 := rfl
  have short := travels.short
  obtain ⟨body, tag, encrypted, bodied, tagged, result⟩ := encrypt_eq_append ideal ready drawn
    (by omega : plaintext.length < 2 ^ 31) travels.sized travels.nonempty
  have bodyShort : body.length + 16 ≤ intMax := by rw [bodied]; exact short
  have decrypted := ideal.gcmDecrypts _ _ _ _ _ _ encrypted
  have length := toNat_length (by omega : plaintext.length < 2 ^ 31)
  -- an empty text keeps its length only because nothing was authenticated
  have kept : resize plaintext (if body.length = 0 then
      authenticatedSize stream crypto.keyContext else body.length) = plaintext := by
    by_cases empty : plaintext = []
    · rw [empty, length_nil] at bodied
      rw [if_pos bodied, travels.nonempty.resolve_left (not_not.mpr empty), empty]
      rfl
    · rw [if_neg (by rw [bodied]; exact fun zero => empty (length_eq_zero_iff.mp zero)),
        bodied, resize_length]
  constructor
  · rw [result]
    rfl
  · rw [result, PayloadCrypto.decrypt_append ready drawn bodyShort tagged, if_pos travels.sized]
    simp only [decrypted, kept, length, ne_eq, not_true, if_false]
  · intro other plaintextLength payloadCrypto different
    rw [result] at different ⊢
    by_cases matched : ∃ otherNonce, otherNonce.length = 12 ∧
        payloadCrypto = crypto.metadata otherNonce
    · obtain ⟨otherNonce, otherDrawn, rfl⟩ := matched
      rw [PayloadCrypto.decrypt_append ready otherDrawn bodyShort tagged]
      split
      · split
        · exact ⟨rfl, rfl⟩
        · rename_i opened
          -- the cipher opens only what was sent, so the length alone is different
          obtain ⟨rfl, aads, -⟩ := binds body tag encrypted _ _ _ _ opened
          have streams : other = stream := stream_of_authenticated ready.keyId drawn otherDrawn
            travels.told aads
          subst streams
          rw [aads, decrypted] at opened
          cases opened
          have lengths : plaintext.length ≠ plaintextLength.toNat := by
            rw [← length]
            intro same
            apply different
            rw [← UInt32.toNat_inj.mp same]
          simp only [kept, if_pos lengths, true_and]
          rfl
      · exact ⟨rfl, rfl⟩
    · rw [PayloadCrypto.decrypt_mismatched (fun otherNonce otherDrawn same =>
        matched ⟨otherNonce, otherDrawn, same⟩)]
      exact ⟨travels.fresh, rfl⟩

/-- A payload is delivered only into an empty output. -/
theorem Delivers.fresh (delivers : Delivers prims crypto crypto nonce stream plaintext dst)
    (drawn : nonce.length = 12) {ciphertext : Bytes}
    (result : crypto.encrypt prims (some nonce) stream plaintext =
      (⟨ciphertext, UInt32.ofNat plaintext.length, crypto.metadata nonce⟩, .none)) :
    dst = [] := by
  have bound := delivers.bound stream (UInt32.ofNat plaintext.length) (crypto.metadata [])
  rw [result] at bound
  have changed := bound (fun same => by
    have nonces : [] = nonce := congrArg (fun entry => entry.2.2.nonce) same
    rw [← nonces] at drawn
    cases drawn)
  rw [PayloadCrypto.decrypt_mismatched] at changed
  · exact changed.1
  · intro otherNonce otherDrawn same
    have nonces : [] = otherNonce := congrArg PayloadCryptoMetadata.nonce same
    rw [← nonces] at otherDrawn
    cases otherDrawn

theorem PayloadCrypto.length_of_decrypted {src : EncryptedPayload} {text : Bytes}
    (received : crypto.decrypt prims stream src dst = (text, .none)) :
    src.ciphertext.length ≤ intMax := by
  by_contra long
  rw [decrypt] at received
  split at received
  · cases received
  · simp only [aesGcmDecrypt, if_pos (Or.inr (Or.inr (Or.inr (Nat.lt_of_not_le long))))] at received
    cases received

/-- The ciphertext of an empty text is received only when nothing was authenticated. -/
theorem Delivers.nonempty (ideal : prims.Ideal) (ready : crypto.Ready) (drawn : nonce.length = 12)
    (short : plaintext.length < 2 ^ 31)
    (sized : authenticatedSize stream crypto.keyContext < 2 ^ 31)
    (binds : Binds prims crypto.payloadKey nonce
      (crypto.authenticatedAad stream nonce (UInt32.ofNat plaintext.length)) plaintext)
    (delivers : Delivers prims crypto crypto nonce stream plaintext dst) :
    plaintext ≠ [] ∨ authenticatedSize stream crypto.keyContext = 0 := by
  obtain ⟨body, tag, encrypted, bodied, tagged, result⟩ :=
    PayloadCrypto.encrypt_eq ideal ready drawn short sized
  by_contra neither
  rw [not_or, not_not] at neither
  obtain ⟨rfl, some⟩ := neither
  have received := delivers.received
  rw [result] at received
  have long := PayloadCrypto.length_of_decrypted received
  simp only [isEmpty_nil, if_true, length_append, length_replicate, tagged] at long
  rw [isEmpty_nil, if_pos rfl, PayloadCrypto.decrypt_append ready drawn
    (by rw [length_replicate]; exact long) tagged, if_pos sized] at received
  split at received
  · cases received
  · rename_i opened
    obtain ⟨-, -, bodies⟩ := binds body tag encrypted _ _ _ _ opened
    rw [← bodies, length_replicate] at bodied
    exact some bodied

theorem Delivers.told (ideal : prims.Ideal) (ready : crypto.Ready) (drawn : nonce.length = 12)
    (short : plaintext.length + 16 ≤ intMax)
    (sized : authenticatedSize stream crypto.keyContext < 2 ^ 31)
    (nonempty : plaintext ≠ [] ∨ authenticatedSize stream crypto.keyContext = 0)
    (delivers : Delivers prims crypto crypto nonce stream plaintext dst) :
    stream = .stdIn ∨ 40 < authenticatedSize stream crypto.keyContext := by
  have greatest : intMax = 2 ^ 31 - 1 := rfl
  obtain ⟨body, tag, -, bodied, tagged, result⟩ := encrypt_eq_append ideal ready drawn
    (by omega : plaintext.length < 2 ^ 31) sized nonempty
  have bodyShort : body.length + 16 ≤ intMax := by rw [bodied]; exact short
  by_contra neither
  rw [not_or, Nat.not_lt] at neither
  obtain ⟨output, cut⟩ := neither
  obtain ⟨other, otherOutput, different⟩ :
      ∃ other : PayloadStream, other ≠ .stdIn ∧ other ≠ stream := by
    cases stream with
    | stdIn => exact absurd rfl output
    | stdOut => exact ⟨.stdErr, by decide, by decide⟩
    | stdErr => exact ⟨.stdOut, by decide, by decide⟩
  obtain ⟨sizes, aads⟩ := authenticated_of_output crypto.payloadKeyId nonce
    (UInt32.ofNat plaintext.length) output otherOutput cut
  have received := delivers.received
  have bound := delivers.bound other (UInt32.ofNat plaintext.length) (crypto.metadata nonce)
  rw [result] at received bound
  have failed := (bound (fun same => different (congrArg Prod.fst same))).2
  rw [PayloadCrypto.decrypt_append ready drawn bodyShort tagged] at received failed
  rw [PayloadCrypto.authenticatedAad, aads, sizes] at failed
  rw [PayloadCrypto.authenticatedAad] at received
  rw [received] at failed
  cases failed

theorem Delivers.travels (ideal : prims.Ideal) (ready : crypto.Ready) (drawn : nonce.length = 12)
    (short : plaintext.length < 2 ^ 31)
    (binds : Binds prims crypto.payloadKey nonce
      (crypto.authenticatedAad stream nonce (UInt32.ofNat plaintext.length)) plaintext)
    (delivers : Delivers prims crypto crypto nonce stream plaintext dst) :
    Travels crypto.keyContext stream plaintext dst := by
  have sized : authenticatedSize stream crypto.keyContext < 2 ^ 31 := by
    by_contra refused
    have failed := PayloadCrypto.encrypt_refused prims plaintext ready drawn refused
    rw [delivers.sent] at failed
    cases failed
  have nonempty := delivers.nonempty ideal ready drawn short sized binds
  obtain ⟨body, tag, -, bodied, tagged, result⟩ :=
    encrypt_eq_append ideal ready drawn short sized nonempty
  have received := delivers.received
  rw [result] at received
  have long := PayloadCrypto.length_of_decrypted received
  rw [length_append, bodied, tagged] at long
  exact ⟨delivers.fresh drawn result, long, sized,
    delivers.told ideal ready drawn long sized nonempty, nonempty⟩

/-- With a key context below two gigabytes only the text and the output matter. -/
theorem travels_iff {keyContext : Bytes} (ordinary : keyContext.length + 91 < 2 ^ 31) :
    Travels keyContext stream plaintext dst ↔
      dst = [] ∧ plaintext ≠ [] ∧ plaintext.length ≤ 2 ^ 31 - 17 := by
  have greatest : intMax = 2 ^ 31 - 1 := rfl
  have name := length_payloadStreamName stream
  have sizes : 40 < authenticatedSize stream keyContext ∧
      authenticatedSize stream keyContext < 2 ^ 31 := by
    rw [authenticatedSize, aadSize]
    split at name <;> omega
  constructor
  · intro travels
    have short := travels.short
    exact ⟨travels.fresh, travels.nonempty.resolve_right (by omega), by omega⟩
  · rintro ⟨fresh, nonempty, short⟩
    exact ⟨fresh, by omega, sizes.2, .inr sizes.1, .inl nonempty⟩

end

/-- The server gets a crypto from the grant of the client, and each of the two decrypts
what the other one encrypts. -/
def RoundTrips (prims : Primitives) (client : PayloadCrypto) (identity : E2eIdentity)
    (nonce : Bytes) (stream : PayloadStream) (plaintext dst : Bytes) : Prop :=
  ∃ server errorCode,
    makeE2eServerPayloadCrypto prims client.getSessionKeyGrant identity =
      (some server, errorCode) ∧ errorCode.failed = false ∧
    Delivers prims client server nonce stream plaintext dst ∧
    Delivers prims server client nonce stream plaintext dst

section

variable {config : E2ePayloadCryptoConfig} {draws : ClientDraws} {client : PayloadCrypto}
  {identity normalized : E2eIdentity} {stream : PayloadStream} {nonce plaintext dst : Bytes}

theorem RoundTrips.addressed (session : Session prims config draws client identity normalized)
    (trips : RoundTrips prims client identity nonce stream plaintext dst) :
    Addressed prims config normalized := by
  obtain ⟨server, errorCode, made, -⟩ := trips
  by_contra unaddressed
  have none := session.server_eq_none unaddressed
  rw [made] at none
  cases none

theorem RoundTrips.travels (ideal : prims.Ideal)
    (session : Session prims config draws client identity normalized) (drawn : nonce.length = 12)
    (short : plaintext.length < 2 ^ 31)
    (binds : Binds prims client.payloadKey nonce
      (client.authenticatedAad stream nonce (UInt32.ofNat plaintext.length)) plaintext)
    (trips : RoundTrips prims client identity nonce stream plaintext dst) :
    Travels client.keyContext stream plaintext dst := by
  have ready := (PayloadCrypto.made_of_accepted session.accepted).ready
  obtain ⟨serverCode, -, same⟩ :=
    session.server_eq_of_addressed ideal (trips.addressed session)
  obtain ⟨server, errorCode, made, -, delivers, -⟩ := trips
  rw [same] at made
  cases made
  -- the envelopes take no part in the payloads
  have back : Delivers prims client client nonce stream plaintext dst :=
    ⟨delivers.sent, delivers.received, delivers.bound⟩
  exact back.travels ideal ready drawn short binds

/-- **Round trip and binding.** Both directions work, and only as what was sent, exactly
when the server is addressed by the first envelope of its key id and the payload can
travel. -/
theorem roundTrips_iff (ideal : prims.Ideal)
    (session : Session prims config draws client identity normalized) (drawn : nonce.length = 12)
    (short : plaintext.length < 2 ^ 31)
    (binds : Binds prims client.payloadKey nonce
      (client.authenticatedAad stream nonce (UInt32.ofNat plaintext.length)) plaintext) :
    RoundTrips prims client identity nonce stream plaintext dst ↔
      Addressed prims config normalized ∧ Travels client.keyContext stream plaintext dst := by
  constructor
  · intro trips
    exact ⟨trips.addressed session, trips.travels ideal session drawn short binds⟩
  · rintro ⟨addressed, travels⟩
    have ready := (PayloadCrypto.made_of_accepted session.accepted).ready
    obtain ⟨errorCode, clear, same⟩ := session.server_eq_of_addressed ideal addressed
    have delivers := travels.delivers ideal ready drawn binds
    exact ⟨_, errorCode, same, clear, ⟨delivers.sent, delivers.received, delivers.bound⟩,
      ⟨delivers.sent, delivers.received, delivers.bound⟩⟩

end

/-! ## A session with one recipient -/

/-- The text with its key, nonce and additional data has a tag of its own. -/
def markedTag (mark : Bytes × Bytes × Bytes × Bytes) (key nonce aad body : Bytes) : Bytes :=
  List.replicate 16 (if (key, nonce, aad, body) = mark then 1 else 0)

/-- Primitives under which nothing else has the tag of the mark. -/
def markedPrims (mark : Bytes × Bytes × Bytes × Bytes) : Primitives :=
  { smallPrims with
    gcmEncrypt := fun key nonce aad plaintext =>
      some (plaintext, markedTag mark key nonce aad plaintext)
    gcmDecrypt := fun key nonce aad body tag =>
      if tag = markedTag mark key nonce aad body then some body else none
    gcmEncrypt_length := by
      intro key nonce aad plaintext body tag same
      cases same
      exact ⟨rfl, List.length_replicate⟩
    gcmDecrypt_length := by
      intro key nonce aad body tag plaintext same
      split at same
      · rw [← Option.some.inj same]
      · cases same }

theorem markedPrims_ideal (mark : Bytes × Bytes × Bytes × Bytes) : (markedPrims mark).Ideal where
  loadsPrivate _ _ := rfl
  loadsPublic _ _ := rfl
  derive_comm key peer keyPublic peerPublic owned peerOwned := by
    have same : keyPublic = key := by
      change (if key.length = 32 then some key else none) = some keyPublic at owned
      split at owned
      · exact (Option.some.inj owned).symm
      · cases owned
    have peerSame : peerPublic = peer := by
      change (if peer.length = 32 then some peer else none) = some peerPublic at peerOwned
      split at peerOwned
      · exact (Option.some.inj peerOwned).symm
      · cases peerOwned
    rw [same, peerSame]
    change some _ = some _
    rw [zipWith_comm_of_comm (fun first second => UInt8.xor_comm first second)]
  gcmEncrypts _ _ _ _ _ _ := rfl
  gcmDecrypts key nonce aad plaintext body tag same := by
    cases same
    exact if_pos rfl

theorem markedPrims_binds (key nonce aad plaintext : Bytes) :
    Binds (markedPrims (key, nonce, aad, plaintext)) key nonce aad plaintext := by
  intro body tag encrypted otherNonce otherAad otherBody text opened
  cases encrypted
  change (if _ = _ then some otherBody else none) = some text at opened
  split at opened
  · rename_i tags
    rw [markedTag, if_pos rfl, markedTag] at tags
    split at tags
    · rename_i same
      cases same
      exact ⟨rfl, rfl, rfl⟩
    · cases tags
  · cases opened

/-- The client of the session. -/
def sampleConfig : E2ePayloadCryptoConfig where
  payloadKey := List.replicate 32 11
  payloadKeyId := List.replicate 16 7
  keyContext := [1, 2, 3]
  recipients := [⟨[], keyedIdentity.publicKey⟩]

def sampleDraws : ClientDraws where
  payloadKey := none
  payloadKeyId := none
  keyPairs _ := some ⟨some (List.replicate 32 9), some (List.replicate 32 9)⟩

def sampleNonce : Bytes := List.replicate 12 13

/-- Primitives that mark a text on the standard output of the session. -/
def samplePrims (plaintext : Bytes) : Primitives :=
  markedPrims (sampleConfig.payloadKey, sampleNonce,
    (aadOf .stdOut sampleConfig.payloadKeyId sampleConfig.keyContext sampleNonce
      (UInt32.ofNat plaintext.length)).take (authenticatedSize .stdOut sampleConfig.keyContext),
    plaintext)

/-- The envelope of the session. -/
def sampleClient (plaintext : Bytes) : PayloadCrypto where
  payloadSuite := .aes256Gcm
  payloadKey := sampleConfig.payloadKey
  payloadKeyId := sampleConfig.payloadKeyId
  keyContext := sampleConfig.keyContext
  keyEnvelopeSuite := .hpkeX25519HkdfSha256Aes256Gcm
  keyEnvelopes := (makeE2eClientPayloadCrypto (samplePrims plaintext) sampleConfig
    sampleDraws).1.elim [] PayloadCrypto.keyEnvelopes

theorem sampleSession (plaintext : Bytes) :
    Session (samplePrims plaintext) sampleConfig sampleDraws (sampleClient plaintext)
      keyedIdentity (labelled (samplePrims plaintext) keyedIdentity) where
  accepted := rfl
  genuine index pair drawn := by
    cases drawn
    exact ⟨_, _, rfl, rfl, by decide, rfl⟩
  normalizes := normalizeIdentity_unlabelled _ ⟨by decide, by decide, rfl⟩ _
  owned := rfl
  listed := ⟨_, mem_cons_self, rfl, rfl⟩
  confined recipient envelope together other := by
    have mem := (of_mem_zip together).1
    rw [sampleConfig, mem_singleton] at mem
    rw [mem] at other
    exact absurd rfl other

/-- A text of one byte reaches the server. -/
theorem sampleSession_round_trip :
    RoundTrips (samplePrims [42]) (sampleClient [42]) keyedIdentity sampleNonce .stdOut [42]
      [] := by
  have session := sampleSession [42]
  refine (roundTrips_iff (markedPrims_ideal _) session (by decide) (by decide)
    (markedPrims_binds _ _ _ _)).mpr ⟨?_, ?_⟩
  · intro recipient first
    have mem := mem_of_find?_eq_some first
    rw [sampleConfig, mem_singleton] at mem
    rw [mem]
    rfl
  · rw [travels_iff (by decide)]
    exact ⟨rfl, by decide, by decide⟩

/-- An empty text does not. -/
theorem sampleSession_lost :
    Session (samplePrims []) sampleConfig sampleDraws (sampleClient []) keyedIdentity
        (labelled (samplePrims []) keyedIdentity) ∧
      (samplePrims []).Ideal ∧
      Binds (samplePrims []) (sampleClient []).payloadKey sampleNonce
        ((sampleClient []).authenticatedAad .stdOut sampleNonce
          (UInt32.ofNat ([] : Bytes).length)) [] ∧
      ¬ RoundTrips (samplePrims []) (sampleClient []) keyedIdentity sampleNonce .stdOut [] [] := by
  have session := sampleSession []
  have binds : Binds (samplePrims []) (sampleClient []).payloadKey sampleNonce
      ((sampleClient []).authenticatedAad .stdOut sampleNonce
        (UInt32.ofNat ([] : Bytes).length)) [] :=
    markedPrims_binds _ _ _ _
  refine ⟨session, markedPrims_ideal _, binds, ?_⟩
  intro trips
  have travels := trips.travels (markedPrims_ideal _) session (by decide) (by decide) binds
  rw [travels_iff (by decide)] at travels
  exact travels.2.1 rfl

end Rstream.Webtty
