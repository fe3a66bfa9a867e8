import Rstream.Webtty.Server.Types

/-!
# Verification of the proof of a client

A client proves that it holds an authorised signing key by a signature over a transcript
that the server rebuilds: the nonce and the id of the session, the identity of the
server, the grant and the command of the `Open` that carries the proof.

The time of a proof is a number of nanoseconds in 64 bits, so times that are far away
wrap around (`wrap64`).
-/

namespace Rstream.Webtty.Server

open IoRstrm (ErrorCode)

/-! ## Times -/

/-- A signed number of 64 bits. -/
def wrap64 (value : Int) : Int := Int.bmod value (2 ^ 64)

def parseDigit (value : Bytes) (offset : Nat) : Option Nat :=
  match value[offset]? with
  | none => none
  | some byte => if 48 ≤ byte ∧ byte ≤ 57 then some (byte.toNat - 48) else none

/-- `parse_fixed_digits`, from an offset on and with what was read before it. -/
def parseFixedDigits (value : Bytes) : Nat → Nat → Nat → Option Nat
  | _, 0, dst => some dst
  | offset, length + 1, dst =>
    match parseDigit value offset with
    | none => none
    | some digit => parseFixedDigits value (offset + 1) length (dst * 10 + digit)

def isLeapYear (year : Nat) : Bool := (year % 4 == 0 && year % 100 != 0) || year % 400 == 0

def daysInMonth (year month : Nat) : Nat :=
  if month = 2 ∧ isLeapYear year then 29
  else [31, 28, 31, 30, 31, 30, 31, 31, 30, 31, 30, 31].getD (month - 1) 0

def daysFromCivil (year : Int) (month day : Nat) : Int :=
  let year := if month ≤ 2 then year - 1 else year
  let era := (if 0 ≤ year then year else year - 399).tdiv 400
  let yoe := (year - era * 400).toNat
  let doy := (153 * (if 2 < month then month - 3 else month + 9) + 2) / 5 + day - 1
  let doe := yoe * 365 + yoe / 4 - yoe / 100 + doy
  era * 146097 + doe - 719468

/-- `parse_rfc3339_utc`, in nanoseconds. -/
def parseRfc3339Utc (value : Bytes) : Option Int := do
  if value.length ≠ 20 ∨ value[4]? ≠ some 45 ∨ value[7]? ≠ some 45 ∨ value[10]? ≠ some 84 ∨
      value[13]? ≠ some 58 ∨ value[16]? ≠ some 58 ∨ value[19]? ≠ some 90 then none
  let year ← parseFixedDigits value 0 4 0
  let month ← parseFixedDigits value 5 2 0
  let day ← parseFixedDigits value 8 2 0
  let hour ← parseFixedDigits value 11 2 0
  let minute ← parseFixedDigits value 14 2 0
  let second ← parseFixedDigits value 17 2 0
  if month < 1 ∨ 12 < month ∨ day < 1 ∨ daysInMonth year month < day ∨ 23 < hour ∨ 59 < minute ∨
      59 < second then none
  let totalSeconds := daysFromCivil year month day * 86400 + hour * 3600 + minute * 60 + second
  some (wrap64 (totalSeconds * 1000000000))

/-- A number of seconds, in nanoseconds. -/
def seconds (value : Int) : Int := value * 1000000000

/-- The window of a proof is open. -/
def proofTimely (now issuedAt expiresAt : Int) : Bool :=
  !(decide (expiresAt < now) || decide (issuedAt > wrap64 (now + seconds 5)) ||
    decide (wrap64 (expiresAt - issuedAt) > seconds 30))

section

variable (prims : ProofPrimitives) (settings : Settings) (world : World)

/-! ## Authorisation -/

/-- `m_authorized_client_signing_keys.find`. -/
def findAuthorizedKey (keyId : Bytes) : Option Bytes :=
  (settings.authorizedClientSigningKeys.find? (·.1 == keyId)).map Prod.snd

/-- The key of the credential verifier, empty if it has none. -/
def credentialKey (proof : ClientProof) : Except ErrorCode Bytes :=
  if settings.clientProofCredentialVerifier then
    match world.credentialVerifier proof.signingKeyId proof.signingPublicKey
        (proof.credential.getD []) with
    | none => .error Error.Code.clientUnauthorized
    | some resolved => .ok (resolved.getD [])
  else .ok []

/-- The key that the three sources give for the key id of a proof, empty if there is none. -/
def authorizedPublicKey (proof : ClientProof) : Except ErrorCode Bytes :=
  match credentialKey settings world proof with
  | .error errorCode => .error errorCode
  | .ok authorized =>
    if authorized.isEmpty then
      match findAuthorizedKey settings proof.signingKeyId with
      | some key => .ok key
      | none =>
        if settings.authorizedClientSigningKeyResolver then
          match world.signingKeyResolver proof.signingKeyId with
          | none => .error Error.Code.clientUnauthorized
          | some resolved => .ok (resolved.getD [])
        else .ok []
    else .ok authorized

/-! ## The transcript -/

/-- `hash_proto_message` of a grant; an absent grant is the empty message. -/
def hashGrant (grant : Option SessionKeyGrant) : Option Bytes :=
  (prims.serializeGrant (grant.getD ⟨.unspecified, [], [], [], .unspecified⟩)).map prims.sha256

/-- `hash_proto_message` of a configuration, or the hash of no bytes. -/
def hashConfig (config : Option Config) : Option Bytes :=
  match config with
  | none => some (prims.sha256 [])
  | some config => (prims.serializeConfig config).map prims.sha256

/-- The transcript that a proof has to sign. -/
def clientProofTranscript (identity : EndpointIdentity) (serverNonce : Bytes) (open_ : Open)
    (proof : ClientProof) : Option ClientProofTranscript := do
  let sessionKeyGrantHash ← hashGrant prims open_.sessionKeyGrant
  let commandConfigHash ← hashConfig prims open_.config
  let serverPublic := publicEndpointIdentity identity
  return {
    transport := transportString settings.protocolType
    workspaceId := settings.workspaceId
    projectId := settings.projectId
    serverId := settings.serverId
    sessionId := settings.sessionId
    serverSigningKeyId := serverPublic.signingKeyId
    serverEncryptionKeyId := serverPublic.encryptionKeyId
    serverNonce
    authRequirement := .clientProof
    payloadSuite := .aes256Gcm
    keyEnvelopeSuite := .hpkeX25519HkdfSha256Aes256Gcm
    sessionKeyGrantHash
    commandConfigHash
    attachGrantHash := []
    requestedRole := []
    clientPrincipalId := proof.principalId.getD []
    clientSigningKeyId := proof.signingKeyId
    clientCredentialHash := prims.sha256 (proof.credential.getD [])
    issuedAt := proof.issuedAt
    expiresAt := proof.expiresAt }

def verifyWebttyClientProofTranscript (publicKey : Bytes) (transcript : ClientProofTranscript)
    (signature : Bytes) (errorCode : ErrorCode) : ErrorCode :=
  let (digest, errorCode) := hashWebttyClientProofTranscript prims.sha256 transcript errorCode
  if errorCode.failed then errorCode else prims.verifyDigestSignature publicKey digest signature

/-- The end of `verify_client_proof`: the hash and the signature. -/
def verifyTranscript (proof : ClientProof) (transcript : ClientProofTranscript) : ErrorCode :=
  let (expectedHash, errorCode) := hashWebttyClientProofTranscript prims.sha256 transcript .none
  if errorCode.failed then errorCode
  else if expectedHash ≠ proof.transcriptHash then Error.Code.clientProofInvalid
  else if (verifyWebttyClientProofTranscript prims proof.signingPublicKey transcript
      proof.signature errorCode).failed then Error.Code.clientProofInvalid
  else .none

/-- `verify_client_proof`, with `m_server_nonce`. -/
def verifyClientProof (serverNonce : Bytes) (open_ : Open) : ErrorCode :=
  if settings.requireClientProof = false then .none
  else match settings.endpointIdentity with
    | none => Error.Code.protocolError
    | some identity =>
      match open_.clientProof with
      | none => Error.Code.clientProofRequired
      | some proof =>
        if proof.signingKeyId.isEmpty then Error.Code.clientProofInvalid
        else match authorizedPublicKey settings world proof with
          | .error errorCode => errorCode
          | .ok authorized =>
            if authorized.isEmpty ∨ authorized ≠ proof.signingPublicKey then
              Error.Code.clientUnauthorized
            else match parseRfc3339Utc proof.issuedAt, parseRfc3339Utc proof.expiresAt with
              | some issuedAt, some expiresAt =>
                if proofTimely world.now issuedAt expiresAt = false then
                  Error.Code.clientProofInvalid
                else match clientProofTranscript prims settings identity serverNonce open_
                    proof with
                  | none => Error.Code.protocolError
                  | some transcript => verifyTranscript prims proof transcript
              | _, _ => Error.Code.clientProofInvalid

end

/-! ## What a verified proof shows -/

section

variable {prims : ProofPrimitives} {settings : Settings} {world : World}

/-- The key is one that a configured source gave for the key id of the proof. -/
inductive Authorizes (settings : Settings) (world : World) (proof : ClientProof) :
    Bytes → Prop where
  | credential {key : Bytes} : settings.clientProofCredentialVerifier = true →
      world.credentialVerifier proof.signingKeyId proof.signingPublicKey
        (proof.credential.getD []) = some (some key) → Authorizes settings world proof key
  | configured {key : Bytes} : (proof.signingKeyId, key) ∈ settings.authorizedClientSigningKeys →
      Authorizes settings world proof key
  | resolved {key : Bytes} : settings.authorizedClientSigningKeyResolver = true →
      world.signingKeyResolver proof.signingKeyId = some (some key) →
        Authorizes settings world proof key

/-- The proof of an `Open` is a signature of an authorised key, within its time, over a
transcript of this session: its nonce and its id. -/
structure Proved (prims : ProofPrimitives) (settings : Settings) (world : World)
    (serverNonce : Bytes) (open_ : Open) (identity : EndpointIdentity) (proof : ClientProof)
    (transcript : ClientProofTranscript) : Prop where
  identified : settings.endpointIdentity = some identity
  given : open_.clientProof = some proof
  authorized : Authorizes settings world proof proof.signingPublicKey
  nonempty : proof.signingPublicKey ≠ []
  timely : ∃ issuedAt expiresAt, parseRfc3339Utc proof.issuedAt = some issuedAt ∧
    parseRfc3339Utc proof.expiresAt = some expiresAt ∧
    proofTimely world.now issuedAt expiresAt = true
  rebuilt : clientProofTranscript prims settings identity serverNonce open_ proof =
    some transcript
  nonce : transcript.serverNonce = serverNonce
  session : transcript.sessionId = settings.sessionId
  signer : transcript.clientSigningKeyId = proof.signingKeyId
  signed : (prims.verifyDigestSignature proof.signingPublicKey
    (prims.sha256 (transcript.canonical .none).1) proof.signature).failed = false

variable {key serverNonce : Bytes} {proof : ClientProof} {transcript : ClientProofTranscript}
  {open_ : Open}

theorem mem_of_findAuthorizedKey {keyId : Bytes}
    (found : findAuthorizedKey settings keyId = some key) :
    (keyId, key) ∈ settings.authorizedClientSigningKeys := by
  rw [findAuthorizedKey, Option.map_eq_some_iff] at found
  obtain ⟨⟨name, value⟩, first, rfl⟩ := found
  have named : name = keyId := beq_iff_eq.mp (List.find?_some first :)
  rw [← named]
  exact List.mem_of_find?_eq_some first

theorem authorizes_of_authorizedPublicKey
    (found : authorizedPublicKey settings world proof = .ok key) (nonempty : key ≠ []) :
    Authorizes settings world proof key := by
  have some_of_getD : ∀ {resolved : Option Bytes}, resolved.getD [] = key →
      resolved = some key := by
    intro resolved same
    cases resolved with
    | none => exact absurd same.symm nonempty
    | some value => rw [← same, Option.getD_some]
  rw [authorizedPublicKey] at found
  cases credential : credentialKey settings world proof with
  | error errorCode =>
    rw [credential] at found
    cases found
  | ok authorized =>
    rw [credential] at found
    simp only at found
    split at found
    · cases configured : findAuthorizedKey settings proof.signingKeyId with
      | some value =>
        rw [configured] at found
        cases found
        exact .configured (mem_of_findAuthorizedKey configured)
      | none =>
        rw [configured] at found
        simp only at found
        split at found
        · rename_i installed
          cases asked : world.signingKeyResolver proof.signingKeyId with
          | none =>
            rw [asked] at found
            cases found
          | some resolved =>
            rw [asked] at found
            have same := some_of_getD (Except.ok.inj found)
            exact .resolved installed (by rw [asked, same])
        · cases found
          exact absurd rfl nonempty
    · rename_i present
      cases found
      rw [credentialKey] at credential
      split at credential
      · rename_i installed
        cases asked : world.credentialVerifier proof.signingKeyId proof.signingPublicKey
            (proof.credential.getD []) with
        | none =>
          rw [asked] at credential
          cases credential
        | some resolved =>
          rw [asked] at credential
          have same := some_of_getD (Except.ok.inj credential)
          exact .credential installed (by rw [asked, same])
      · cases credential
        exact absurd rfl nonempty

/-- A callback that throws makes the client unauthorised. -/
theorem failed_of_authorizedPublicKey {errorCode : ErrorCode}
    (thrown : authorizedPublicKey settings world proof = .error errorCode) :
    errorCode.failed = true := by
  rw [authorizedPublicKey] at thrown
  cases credential : credentialKey settings world proof with
  | error raised =>
    rw [credential] at thrown
    cases thrown
    rw [credentialKey] at credential
    split at credential
    · split at credential
      · cases credential
        rfl
      · cases credential
    · cases credential
  | ok authorized =>
    rw [credential] at thrown
    simp only at thrown
    split at thrown
    · split at thrown
      · cases thrown
      · split at thrown
        · split at thrown
          · cases thrown
            rfl
          · cases thrown
        · cases thrown
    · cases thrown

/-- What a transcript that verifies shows. -/
theorem signed_of_verifyTranscript
    (verified : (verifyTranscript prims proof transcript).failed = false) :
    (prims.verifyDigestSignature proof.signingPublicKey
      (prims.sha256 (transcript.canonical .none).1) proof.signature).failed = false := by
  rw [verifyTranscript, hashWebttyClientProofTranscript] at verified
  by_cases raised : (transcript.canonical .none).2.failed = true
  · simp only [raised, if_true, Bool.true_eq_false] at verified
  · simp only [raised, Bool.false_eq_true, if_false] at verified
    split at verified
    · cases verified
    · split at verified
      · cases verified
      · rename_i signed
        rw [Bool.not_eq_true, verifyWebttyClientProofTranscript,
          hashWebttyClientProofTranscript] at signed
        by_cases again : (transcript.canonical (transcript.canonical .none).2).2.failed = true
        · simp only [again, if_true, Bool.true_eq_false] at signed
        · simp only [again, Bool.false_eq_true, if_false] at signed
          rw [ClientProofTranscript.fst_canonical] at signed ⊢
          exact signed

theorem clientProofTranscript_eq_some {identity : EndpointIdentity}
    (rebuilt : clientProofTranscript prims settings identity serverNonce open_ proof =
      some transcript) :
    transcript.serverNonce = serverNonce ∧ transcript.sessionId = settings.sessionId ∧
      transcript.clientSigningKeyId = proof.signingKeyId := by
  rw [clientProofTranscript] at rebuilt
  obtain ⟨grantHash, -, rest⟩ := Option.bind_eq_some_iff.mp rebuilt
  obtain ⟨configHash, -, last⟩ := Option.bind_eq_some_iff.mp rest
  cases last
  exact ⟨rfl, rfl, rfl⟩

/-- **A proof that is verified proves.** -/
theorem proved_of_verifyClientProof (required : settings.requireClientProof = true)
    (verified : (verifyClientProof prims settings world serverNonce open_).failed = false) :
    ∃ identity proof transcript,
      Proved prims settings world serverNonce open_ identity proof transcript := by
  rw [verifyClientProof, if_neg (by rw [required]; exact Bool.noConfusion)] at verified
  cases identified : settings.endpointIdentity with
  | none =>
    rw [identified] at verified
    cases verified
  | some identity =>
    cases given : open_.clientProof with
    | none =>
      rw [identified, given] at verified
      cases verified
    | some proof =>
      rw [identified, given] at verified
      simp only at verified
      split at verified
      · cases verified
      · split at verified
        · rename_i errorCode found
          rw [failed_of_authorizedPublicKey found] at verified
          cases verified
        · rename_i authorized found
          split at verified
          · cases verified
          · rename_i matched
            rw [not_or, not_not] at matched
            obtain ⟨present, rfl⟩ := matched
            have nonempty : proof.signingPublicKey ≠ [] := by
              intro empty
              exact present (List.isEmpty_iff.mpr empty)
            split at verified
            · rename_i issuedAt expiresAt issued expires
              split at verified
              · cases verified
              · rename_i timely
                rw [Bool.not_eq_false] at timely
                split at verified
                · cases verified
                · rename_i transcript rebuilt
                  obtain ⟨nonce, session, signer⟩ := clientProofTranscript_eq_some rebuilt
                  exact ⟨identity, proof, transcript, identified, given,
                    authorizes_of_authorizedPublicKey found nonempty, nonempty,
                    ⟨issuedAt, expiresAt, issued, expires, timely⟩, rebuilt, nonce, session,
                    signer, signed_of_verifyTranscript verified⟩
            · cases verified

end

end Rstream.Webtty.Server
