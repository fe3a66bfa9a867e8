import Rstream.Webtty.Types

/-!
# The signed transcripts

Client and server sign the hash of a canonical string of their transcript. The
string is the concatenation of fixed words, length-prefixed strings and counted
lists; text is trimmed before it is written. A signature protects exactly what the
canonical string separates, so the string has to determine the transcript.
-/

namespace Rstream.Webtty

open List
open IoRstrm (ErrorCode)
open Library

/-! ## The source -/

/-- `std::isspace` in the C locale. -/
def isSpace (byte : UInt8) : Bool := byte == 32 || (9 ≤ byte && byte ≤ 13)

def trimCopy (value : Bytes) : Bytes :=
  ((value.dropWhile isSpace).reverse.dropWhile isSpace).reverse

structure ClientProofTranscript where
  protocolVersion : ProtocolVersion := .webtty1
  transport : Bytes
  workspaceId : Bytes
  projectId : Bytes
  serverId : Bytes
  sessionId : Bytes
  serverSigningKeyId : Bytes
  serverEncryptionKeyId : Bytes
  serverNonce : Bytes
  authRequirement : AuthRequirement := .clientProof
  payloadSuite : PayloadCipherSuite := .aes256Gcm
  keyEnvelopeSuite : KeyEnvelopeSuite := .hpkeX25519HkdfSha256Aes256Gcm
  sessionKeyGrantHash : Bytes
  commandConfigHash : Bytes
  attachGrantHash : Bytes
  requestedRole : Bytes
  clientPrincipalId : Bytes
  clientSigningKeyId : Bytes
  clientCredentialHash : Bytes
  issuedAt : Bytes
  expiresAt : Bytes
  deriving DecidableEq

structure ServerProofTranscript where
  protocolVersion : ProtocolVersion := .webtty1
  transport : Bytes
  workspaceId : Bytes
  projectId : Bytes
  serverId : Bytes
  sessionId : Bytes
  serverSigningKeyId : Bytes
  serverEncryptionKeyId : Bytes
  serverNonce : Bytes
  authRequirement : AuthRequirement := .clientProof
  payloadSuites : List PayloadCipherSuite
  keyEnvelopeSuites : List KeyEnvelopeSuite
  signatureSuites : List SignatureSuite
  deriving DecidableEq

/-- The string under construction and the error code. -/
abbrev Canonical := Bytes × ErrorCode

def appendLengthPrefixed (value : Bytes) (dst : Canonical) : Canonical :=
  (dst.1 ++ lengthPrefixed value, dst.2)

def appendLengthPrefixedString (value : Bytes) (dst : Canonical) : Canonical :=
  appendLengthPrefixed (trimCopy value) dst

/-- `append_uint32` of a code that may set the error code. -/
def appendCode (code : ErrorCode → Nat × ErrorCode) (dst : Canonical) : Canonical :=
  (dst.1 ++ word32 (code dst.2).1, (code dst.2).2)

/-- `append_payload_suites`, `append_key_envelope_suites` and `append_signature_suites`. -/
def appendSuites {α : Type} (code : α → ErrorCode → Nat × ErrorCode) (values : List α)
    (dst : Canonical) : Canonical :=
  values.foldl (fun dst value => appendCode (code value) dst)
    (dst.1 ++ word32 values.length, dst.2)

def clientAuthTranscriptDomain : Bytes := bytesFromString "rstream-webtty-client-auth-v1"

def serverAuthTranscriptDomain : Bytes := bytesFromString "rstream-webtty-server-auth-v1"

theorem small_clientAuthTranscriptDomain : (Field.text clientAuthTranscriptDomain).Small := by
  show clientAuthTranscriptDomain.length < 2 ^ 32
  decide

theorem small_serverAuthTranscriptDomain : (Field.text serverAuthTranscriptDomain).Small := by
  show serverAuthTranscriptDomain.length < 2 ^ 32
  decide

/-- The canonical string of `hash_webtty_client_proof_transcript`. -/
def ClientProofTranscript.canonical (transcript : ClientProofTranscript) (errorCode : ErrorCode) :
    Canonical :=
  (([], errorCode) : Canonical)
  |> appendLengthPrefixed clientAuthTranscriptDomain
  |> appendCode (protocolVersionCode transcript.protocolVersion)
  |> appendLengthPrefixedString transcript.transport
  |> appendLengthPrefixedString transcript.workspaceId
  |> appendLengthPrefixedString transcript.projectId
  |> appendLengthPrefixedString transcript.serverId
  |> appendLengthPrefixedString transcript.sessionId
  |> appendLengthPrefixed transcript.serverSigningKeyId
  |> appendLengthPrefixed transcript.serverEncryptionKeyId
  |> appendLengthPrefixed transcript.serverNonce
  |> appendCode (authRequirementCode transcript.authRequirement)
  |> appendCode (payloadSuiteCode transcript.payloadSuite)
  |> appendCode (keyEnvelopeSuiteCode transcript.keyEnvelopeSuite)
  |> appendLengthPrefixed transcript.sessionKeyGrantHash
  |> appendLengthPrefixed transcript.commandConfigHash
  |> appendLengthPrefixed transcript.attachGrantHash
  |> appendLengthPrefixedString transcript.requestedRole
  |> appendLengthPrefixedString transcript.clientPrincipalId
  |> appendLengthPrefixed transcript.clientSigningKeyId
  |> appendLengthPrefixed transcript.clientCredentialHash
  |> appendLengthPrefixedString transcript.issuedAt
  |> appendLengthPrefixedString transcript.expiresAt

/-- The canonical string of `hash_webtty_server_proof_transcript`. -/
def ServerProofTranscript.canonical (transcript : ServerProofTranscript) (errorCode : ErrorCode) :
    Canonical :=
  (([], errorCode) : Canonical)
  |> appendLengthPrefixed serverAuthTranscriptDomain
  |> appendCode (protocolVersionCode transcript.protocolVersion)
  |> appendLengthPrefixedString transcript.transport
  |> appendLengthPrefixedString transcript.workspaceId
  |> appendLengthPrefixedString transcript.projectId
  |> appendLengthPrefixedString transcript.serverId
  |> appendLengthPrefixedString transcript.sessionId
  |> appendLengthPrefixed transcript.serverSigningKeyId
  |> appendLengthPrefixed transcript.serverEncryptionKeyId
  |> appendLengthPrefixed transcript.serverNonce
  |> appendCode (authRequirementCode transcript.authRequirement)
  |> appendSuites payloadSuiteCode transcript.payloadSuites
  |> appendSuites keyEnvelopeSuiteCode transcript.keyEnvelopeSuites
  |> appendSuites signatureSuiteCode transcript.signatureSuites

/-- `hash_webtty_client_proof_transcript`: the input of SHA-256, unless an error was
raised or passed in. -/
def hashWebttyClientProofTranscript (sha256 : Bytes → Bytes) (transcript : ClientProofTranscript)
    (errorCode : ErrorCode) : Bytes × ErrorCode :=
  let canonical := transcript.canonical errorCode
  if canonical.2.failed then ([], canonical.2) else (sha256 canonical.1, canonical.2)

def hashWebttyServerProofTranscript (sha256 : Bytes → Bytes) (transcript : ServerProofTranscript)
    (errorCode : ErrorCode) : Bytes × ErrorCode :=
  let canonical := transcript.canonical errorCode
  if canonical.2.failed then ([], canonical.2) else (sha256 canonical.1, canonical.2)

/-! ## Numbers of enumerations -/

/-- The number under which a value is written. -/
def number {α : Type} (code : α → ErrorCode → Nat × ErrorCode) (value : α) : Nat :=
  (code value .none).1

/-- A value of an enumeration that has a number. -/
def Named {α : Type} (code : α → ErrorCode → Nat × ErrorCode) (value : α) : Prop :=
  (code value .none).2.failed = false

/-- What the functions from an enumeration to its numbers have in common: they raise an
error exactly on the values without a number, and the numbers tell the others apart. -/
structure Numbering {α : Type} (code : α → ErrorCode → Nat × ErrorCode) : Prop where
  fst : ∀ value errorCode, (code value errorCode).1 = number code value
  failed : ∀ value errorCode, (code value errorCode).2.failed = false ↔
    errorCode.failed = false ∧ Named code value
  small : ∀ value, number code value < 2 ^ 32
  injective : ∀ first second, Named code first → Named code second →
    number code first = number code second → first = second

theorem numbering_protocolVersion : Numbering protocolVersionCode where
  fst value errorCode := by cases value <;> rfl
  failed value errorCode := by cases value <;> simp [protocolVersionCode, Named]
  small value := by cases value <;> simp [number, protocolVersionCode]
  injective first second named also same := by
    cases first <;> cases second <;> simp_all [Named, number, protocolVersionCode]

theorem numbering_authRequirement : Numbering authRequirementCode where
  fst value errorCode := by cases value <;> rfl
  failed value errorCode := by cases value <;> simp [authRequirementCode, Named]
  small value := by cases value <;> simp [number, authRequirementCode]
  injective first second named also same := by
    cases first <;> cases second <;> simp_all [Named, number, authRequirementCode]

theorem numbering_payloadSuite : Numbering payloadSuiteCode where
  fst value errorCode := by cases value <;> rfl
  failed value errorCode := by cases value <;> simp [payloadSuiteCode, Named]
  small value := by cases value <;> simp [number, payloadSuiteCode]
  injective first second named also same := by
    cases first <;> cases second <;> simp_all [Named, number, payloadSuiteCode]

theorem numbering_keyEnvelopeSuite : Numbering keyEnvelopeSuiteCode where
  fst value errorCode := by cases value <;> rfl
  failed value errorCode := by cases value <;> simp [keyEnvelopeSuiteCode, Named]
  small value := by cases value <;> simp [number, keyEnvelopeSuiteCode]
  injective first second named also same := by
    cases first <;> cases second <;> simp_all [Named, number, keyEnvelopeSuiteCode]

theorem numbering_signatureSuite : Numbering signatureSuiteCode where
  fst value errorCode := by cases value <;> rfl
  failed value errorCode := by cases value <;> simp [signatureSuiteCode, Named]
  small value := by cases value <;> simp [number, signatureSuiteCode]
  injective first second named also same := by
    cases first <;> cases second <;> simp_all [Named, number, signatureSuiteCode]

/-! ## The canonical string as a sequence of fields -/

theorem length_trimCopy_le (value : Bytes) : (trimCopy value).length ≤ value.length := by
  rw [trimCopy, length_reverse]
  refine (dropWhile_suffix _).length_le.trans ?_
  rw [length_reverse]
  exact (dropWhile_suffix _).length_le

section Appending

variable {α : Type} {code : α → ErrorCode → Nat × ErrorCode} (dst : Canonical)

theorem fst_appendLengthPrefixed (value : Bytes) :
    (appendLengthPrefixed value dst).1 = dst.1 ++ (Field.text value).encode := rfl

theorem fst_appendLengthPrefixedString (value : Bytes) :
    (appendLengthPrefixedString value dst).1 = dst.1 ++ (Field.text (trimCopy value)).encode := rfl

theorem snd_appendLengthPrefixed (value : Bytes) :
    (appendLengthPrefixed value dst).2 = dst.2 := rfl

theorem snd_appendLengthPrefixedString (value : Bytes) :
    (appendLengthPrefixedString value dst).2 = dst.2 := rfl

theorem fst_appendCode (numbering : Numbering code) (value : α) :
    (appendCode (code value) dst).1 = dst.1 ++ (Field.word (number code value)).encode := by
  rw [appendCode, numbering.fst]
  rfl

theorem failed_appendCode (numbering : Numbering code) (value : α) :
    (appendCode (code value) dst).2.failed = false ↔ dst.2.failed = false ∧ Named code value :=
  numbering.failed value dst.2

/-- The loop over a list of suites, by induction on the list. -/
theorem foldl_appendCode (numbering : Numbering code) (values : List α) :
    (values.foldl (fun dst value => appendCode (code value) dst) dst).1 =
        dst.1 ++ (values.map (number code)).flatMap word32 ∧
      ((values.foldl (fun dst value => appendCode (code value) dst) dst).2.failed = false ↔
        dst.2.failed = false ∧ ∀ value ∈ values, Named code value) := by
  induction values generalizing dst with
  | nil => simp
  | cons value values ih =>
    obtain ⟨written, raised⟩ := ih (appendCode (code value) dst)
    rw [foldl_cons]
    refine ⟨?_, ?_⟩
    · rw [written, fst_appendCode dst numbering, map_cons, flatMap_cons,
        append_assoc]
      rfl
    · rw [raised, failed_appendCode dst numbering, forall_mem_cons, and_assoc]

theorem fst_appendSuites (numbering : Numbering code) (values : List α) :
    (appendSuites code values dst).1 =
      dst.1 ++ (Field.words (values.map (number code))).encode := by
  rw [appendSuites, (foldl_appendCode _ numbering values).1, Field.encode, length_map,
    append_assoc]

theorem failed_appendSuites (numbering : Numbering code) (values : List α) :
    (appendSuites code values dst).2.failed = false ↔
      dst.2.failed = false ∧ ∀ value ∈ values, Named code value :=
  (foldl_appendCode _ numbering values).2

end Appending

namespace ClientProofTranscript

/-- What the canonical string spells out. -/
def fields (transcript : ClientProofTranscript) : List Field :=
  [.text clientAuthTranscriptDomain,
    .word (number protocolVersionCode transcript.protocolVersion),
    .text (trimCopy transcript.transport), .text (trimCopy transcript.workspaceId),
    .text (trimCopy transcript.projectId), .text (trimCopy transcript.serverId),
    .text (trimCopy transcript.sessionId), .text transcript.serverSigningKeyId,
    .text transcript.serverEncryptionKeyId, .text transcript.serverNonce,
    .word (number authRequirementCode transcript.authRequirement),
    .word (number payloadSuiteCode transcript.payloadSuite),
    .word (number keyEnvelopeSuiteCode transcript.keyEnvelopeSuite),
    .text transcript.sessionKeyGrantHash, .text transcript.commandConfigHash,
    .text transcript.attachGrantHash, .text (trimCopy transcript.requestedRole),
    .text (trimCopy transcript.clientPrincipalId), .text transcript.clientSigningKeyId,
    .text transcript.clientCredentialHash, .text (trimCopy transcript.issuedAt),
    .text (trimCopy transcript.expiresAt)]

theorem fst_canonical (transcript : ClientProofTranscript) (errorCode : ErrorCode) :
    (transcript.canonical errorCode).1 = Field.encodeAll transcript.fields := by
  simp only [canonical, fst_appendLengthPrefixed, fst_appendLengthPrefixedString,
    fst_appendCode _ numbering_protocolVersion, fst_appendCode _ numbering_authRequirement,
    fst_appendCode _ numbering_payloadSuite, fst_appendCode _ numbering_keyEnvelopeSuite,
    Field.encodeAll, fields, flatMap_cons, flatMap_nil, append_nil,
    nil_append, append_assoc]

/-- The values that need a number have one when no error is raised. -/
theorem named_of_canonical {transcript : ClientProofTranscript} {errorCode : ErrorCode}
    (encoded : (transcript.canonical errorCode).2.failed = false) :
    Named protocolVersionCode transcript.protocolVersion ∧
      Named authRequirementCode transcript.authRequirement ∧
      Named payloadSuiteCode transcript.payloadSuite ∧
      Named keyEnvelopeSuiteCode transcript.keyEnvelopeSuite := by
  simp only [canonical, snd_appendLengthPrefixed, snd_appendLengthPrefixedString,
    failed_appendCode _ numbering_protocolVersion, failed_appendCode _ numbering_authRequirement,
    failed_appendCode _ numbering_payloadSuite, failed_appendCode _ numbering_keyEnvelopeSuite]
    at encoded
  obtain ⟨⟨⟨⟨-, version⟩, requirement⟩, payload⟩, envelope⟩ := encoded
  exact ⟨version, requirement, payload, envelope⟩

/-- The transcript with its text fields trimmed. -/
def trimmed (transcript : ClientProofTranscript) : ClientProofTranscript :=
  { transcript with
    transport := trimCopy transcript.transport
    workspaceId := trimCopy transcript.workspaceId
    projectId := trimCopy transcript.projectId
    serverId := trimCopy transcript.serverId
    sessionId := trimCopy transcript.sessionId
    requestedRole := trimCopy transcript.requestedRole
    clientPrincipalId := trimCopy transcript.clientPrincipalId
    issuedAt := trimCopy transcript.issuedAt
    expiresAt := trimCopy transcript.expiresAt }

/-- Every field is shorter than `2 ^ 32` bytes. -/
def Short (transcript : ClientProofTranscript) : Prop :=
  ∀ bytes ∈ [transcript.transport, transcript.workspaceId, transcript.projectId,
    transcript.serverId, transcript.sessionId, transcript.serverSigningKeyId,
    transcript.serverEncryptionKeyId, transcript.serverNonce, transcript.sessionKeyGrantHash,
    transcript.commandConfigHash, transcript.attachGrantHash, transcript.requestedRole,
    transcript.clientPrincipalId, transcript.clientSigningKeyId,
    transcript.clientCredentialHash, transcript.issuedAt, transcript.expiresAt],
    bytes.length < 2 ^ 32

theorem small_fields {transcript : ClientProofTranscript} (short : transcript.Short) :
    ∀ field ∈ transcript.fields, field.Small := by
  simp only [Short, forall_mem_cons] at short
  obtain ⟨transport, workspace, project, server, session, signing, encryption, nonce, grant,
    command, attach, role, principal, client, credential, issued, expires, -⟩ := short
  have cut {value : Bytes} (bound : value.length < 2 ^ 32) :
      (Field.text (trimCopy value)).Small := (length_trimCopy_le value).trans_lt bound
  simp only [fields, forall_mem_cons]
  exact ⟨small_clientAuthTranscriptDomain, numbering_protocolVersion.small _, cut transport, cut workspace, cut project,
    cut server, cut session, signing, encryption, nonce, numbering_authRequirement.small _,
    numbering_payloadSuite.small _, numbering_keyEnvelopeSuite.small _, grant, command, attach,
    cut role, cut principal, client, credential, cut issued, cut expires,
    forall_mem_nil _⟩

theorem sameKind_fields (first second : ClientProofTranscript) :
    List.Forall₂ Field.SameKind first.fields second.fields := by
  simp only [fields]
  repeat' constructor

/-- The fields spell out the trimmed transcript. -/
theorem trimmed_eq_of_fields {first second : ClientProofTranscript} {errorCode other : ErrorCode}
    (encoded : (first.canonical errorCode).2.failed = false)
    (also : (second.canonical other).2.failed = false)
    (same : first.fields = second.fields) : first.trimmed = second.trimmed := by
  obtain ⟨version, requirement, payload, envelope⟩ := named_of_canonical encoded
  obtain ⟨version', requirement', payload', envelope'⟩ := named_of_canonical also
  simp only [fields, cons.injEq, Field.text.injEq, Field.word.injEq] at same
  obtain ⟨-, sameVersion, transport, workspace, project, server, session, signing, encryption,
    nonce, sameRequirement, samePayload, sameEnvelope, grant, command, attach, role, principal,
    client, credential, issued, expires, -⟩ := same
  simp only [trimmed, mk.injEq]
  exact ⟨numbering_protocolVersion.injective _ _ version version' sameVersion, transport,
    workspace, project, server, session, signing, encryption, nonce,
    numbering_authRequirement.injective _ _ requirement requirement' sameRequirement,
    numbering_payloadSuite.injective _ _ payload payload' samePayload,
    numbering_keyEnvelopeSuite.injective _ _ envelope envelope' sameEnvelope, grant, command,
    attach, role, principal, client, credential, issued, expires⟩

end ClientProofTranscript

namespace ServerProofTranscript

/-- What the canonical string spells out. -/
def fields (transcript : ServerProofTranscript) : List Field :=
  [.text serverAuthTranscriptDomain,
    .word (number protocolVersionCode transcript.protocolVersion),
    .text (trimCopy transcript.transport), .text (trimCopy transcript.workspaceId),
    .text (trimCopy transcript.projectId), .text (trimCopy transcript.serverId),
    .text (trimCopy transcript.sessionId), .text transcript.serverSigningKeyId,
    .text transcript.serverEncryptionKeyId, .text transcript.serverNonce,
    .word (number authRequirementCode transcript.authRequirement),
    .words (transcript.payloadSuites.map (number payloadSuiteCode)),
    .words (transcript.keyEnvelopeSuites.map (number keyEnvelopeSuiteCode)),
    .words (transcript.signatureSuites.map (number signatureSuiteCode))]

theorem fst_canonical (transcript : ServerProofTranscript) (errorCode : ErrorCode) :
    (transcript.canonical errorCode).1 = Field.encodeAll transcript.fields := by
  simp only [canonical, fst_appendLengthPrefixed, fst_appendLengthPrefixedString,
    fst_appendCode _ numbering_protocolVersion, fst_appendCode _ numbering_authRequirement,
    fst_appendSuites _ numbering_payloadSuite, fst_appendSuites _ numbering_keyEnvelopeSuite,
    fst_appendSuites _ numbering_signatureSuite, Field.encodeAll, fields, flatMap_cons,
    flatMap_nil, append_nil, nil_append, append_assoc]

theorem named_of_canonical {transcript : ServerProofTranscript} {errorCode : ErrorCode}
    (encoded : (transcript.canonical errorCode).2.failed = false) :
    Named protocolVersionCode transcript.protocolVersion ∧
      Named authRequirementCode transcript.authRequirement ∧
      (∀ suite ∈ transcript.payloadSuites, Named payloadSuiteCode suite) ∧
      (∀ suite ∈ transcript.keyEnvelopeSuites, Named keyEnvelopeSuiteCode suite) ∧
      ∀ suite ∈ transcript.signatureSuites, Named signatureSuiteCode suite := by
  simp only [canonical, snd_appendLengthPrefixed, snd_appendLengthPrefixedString,
    failed_appendCode _ numbering_protocolVersion, failed_appendCode _ numbering_authRequirement,
    failed_appendSuites _ numbering_payloadSuite,
    failed_appendSuites _ numbering_keyEnvelopeSuite,
    failed_appendSuites _ numbering_signatureSuite] at encoded
  obtain ⟨⟨⟨⟨⟨-, version⟩, requirement⟩, payloads⟩, envelopes⟩, signatures⟩ := encoded
  exact ⟨version, requirement, payloads, envelopes, signatures⟩

/-- The transcript with its text fields trimmed. -/
def trimmed (transcript : ServerProofTranscript) : ServerProofTranscript :=
  { transcript with
    transport := trimCopy transcript.transport
    workspaceId := trimCopy transcript.workspaceId
    projectId := trimCopy transcript.projectId
    serverId := trimCopy transcript.serverId
    sessionId := trimCopy transcript.sessionId }

/-- Every field is shorter than `2 ^ 32` bytes, every list than `2 ^ 32` suites. -/
def Short (transcript : ServerProofTranscript) : Prop :=
  (∀ bytes ∈ [transcript.transport, transcript.workspaceId, transcript.projectId,
    transcript.serverId, transcript.sessionId, transcript.serverSigningKeyId,
    transcript.serverEncryptionKeyId, transcript.serverNonce], bytes.length < 2 ^ 32) ∧
  transcript.payloadSuites.length < 2 ^ 32 ∧ transcript.keyEnvelopeSuites.length < 2 ^ 32 ∧
  transcript.signatureSuites.length < 2 ^ 32

theorem small_words {α : Type} {code : α → ErrorCode → Nat × ErrorCode}
    (numbering : Numbering code) {values : List α} (bound : values.length < 2 ^ 32) :
    (Field.words (values.map (number code))).Small := by
  refine ⟨by rw [length_map]; exact bound, fun value mem => ?_⟩
  obtain ⟨suite, -, rfl⟩ := mem_map.mp mem
  exact numbering.small suite

theorem small_fields {transcript : ServerProofTranscript} (short : transcript.Short) :
    ∀ field ∈ transcript.fields, field.Small := by
  obtain ⟨texts, payloads, envelopes, signatures⟩ := short
  simp only [forall_mem_cons] at texts
  obtain ⟨transport, workspace, project, server, session, signing, encryption, nonce, -⟩ := texts
  have cut {value : Bytes} (bound : value.length < 2 ^ 32) :
      (Field.text (trimCopy value)).Small := (length_trimCopy_le value).trans_lt bound
  simp only [fields, forall_mem_cons]
  exact ⟨small_serverAuthTranscriptDomain, numbering_protocolVersion.small _, cut transport, cut workspace, cut project,
    cut server, cut session, signing, encryption, nonce, numbering_authRequirement.small _,
    small_words numbering_payloadSuite payloads, small_words numbering_keyEnvelopeSuite envelopes,
    small_words numbering_signatureSuite signatures, forall_mem_nil _⟩

theorem sameKind_fields (first second : ServerProofTranscript) :
    List.Forall₂ Field.SameKind first.fields second.fields := by
  simp only [fields]
  repeat' constructor

/-- Lists of suites with numbers are told apart by the numbers. -/
theorem map_number_injective {α : Type} {code : α → ErrorCode → Nat × ErrorCode}
    (numbering : Numbering code) {first second : List α}
    (named : ∀ suite ∈ first, Named code suite) (also : ∀ suite ∈ second, Named code suite)
    (same : first.map (number code) = second.map (number code)) : first = second := by
  induction first generalizing second with
  | nil => exact (map_eq_nil_iff.mp same.symm).symm
  | cons suite suites ih =>
    cases second with
    | nil => cases same
    | cons other others =>
      rw [map_cons, map_cons, cons.injEq] at same
      rw [numbering.injective suite other (named suite mem_cons_self)
        (also other mem_cons_self) same.1,
        ih (fun entry mem => named entry (mem_cons_of_mem _ mem))
          (fun entry mem => also entry (mem_cons_of_mem _ mem)) same.2]

/-- The fields spell out the trimmed transcript. -/
theorem trimmed_eq_of_fields {first second : ServerProofTranscript} {errorCode other : ErrorCode}
    (encoded : (first.canonical errorCode).2.failed = false)
    (also : (second.canonical other).2.failed = false)
    (same : first.fields = second.fields) : first.trimmed = second.trimmed := by
  obtain ⟨version, requirement, payloads, envelopes, signatures⟩ := named_of_canonical encoded
  obtain ⟨version', requirement', payloads', envelopes', signatures'⟩ := named_of_canonical also
  simp only [fields, cons.injEq, Field.text.injEq, Field.word.injEq, Field.words.injEq]
    at same
  obtain ⟨-, sameVersion, transport, workspace, project, server, session, signing, encryption,
    nonce, sameRequirement, samePayloads, sameEnvelopes, sameSignatures, -⟩ := same
  simp only [trimmed, mk.injEq]
  exact ⟨numbering_protocolVersion.injective _ _ version version' sameVersion, transport,
    workspace, project, server, session, signing, encryption, nonce,
    numbering_authRequirement.injective _ _ requirement requirement' sameRequirement,
    map_number_injective numbering_payloadSuite payloads payloads' samePayloads,
    map_number_injective numbering_keyEnvelopeSuite envelopes envelopes' sameEnvelopes,
    map_number_injective numbering_signatureSuite signatures signatures' sameSignatures⟩

end ServerProofTranscript

/-! ## What a signature protects -/

/-- The canonical string of a transcript that is encoded without error determines it up
to the white space around its text, for clients and for servers, and no string is both
the one of a client and the one of a server. -/
theorem canonical_determines :
    (∀ first second : ClientProofTranscript, first.Short → second.Short →
      (first.canonical .none).2.failed = false → (second.canonical .none).2.failed = false →
      (first.canonical .none).1 = (second.canonical .none).1 →
        first.trimmed = second.trimmed) ∧
    (∀ first second : ServerProofTranscript, first.Short → second.Short →
      (first.canonical .none).2.failed = false → (second.canonical .none).2.failed = false →
      (first.canonical .none).1 = (second.canonical .none).1 →
        first.trimmed = second.trimmed) ∧
    ∀ (client : ClientProofTranscript) (server : ServerProofTranscript),
      (client.canonical .none).1 ≠ (server.canonical .none).1 := by
  refine ⟨fun first second short also encoded encodedToo same => ?_,
    fun first second short also encoded encodedToo same => ?_, fun client server same => ?_⟩
  · rw [ClientProofTranscript.fst_canonical, ClientProofTranscript.fst_canonical] at same
    exact ClientProofTranscript.trimmed_eq_of_fields encoded encodedToo
      (Field.encodeAll_injective (first.sameKind_fields second)
        (ClientProofTranscript.small_fields short) (ClientProofTranscript.small_fields also) same)
  · rw [ServerProofTranscript.fst_canonical, ServerProofTranscript.fst_canonical] at same
    exact ServerProofTranscript.trimmed_eq_of_fields encoded encodedToo
      (Field.encodeAll_injective (first.sameKind_fields second)
        (ServerProofTranscript.small_fields short) (ServerProofTranscript.small_fields also) same)
  · rw [ClientProofTranscript.fst_canonical, ServerProofTranscript.fst_canonical] at same
    have domains : Field.text clientAuthTranscriptDomain = .text serverAuthTranscriptDomain :=
      Field.head_eq_of_encodeAll_eq trivial small_clientAuthTranscriptDomain
        small_serverAuthTranscriptDomain same
    exact absurd domains (by decide)

/-- A transcript with a transport and nothing else. -/
def transcriptOver (transport : Bytes) : ClientProofTranscript where
  transport := transport
  workspaceId := []
  projectId := []
  serverId := []
  sessionId := []
  serverSigningKeyId := []
  serverEncryptionKeyId := []
  serverNonce := []
  sessionKeyGrantHash := []
  commandConfigHash := []
  attachGrantHash := []
  requestedRole := []
  clientPrincipalId := []
  clientSigningKeyId := []
  clientCredentialHash := []
  issuedAt := []
  expiresAt := []

theorem canonical_determines_padded :
    let first := transcriptOver (bytesFromString " tcp ")
    let second := transcriptOver (bytesFromString "tcp")
    first ≠ second ∧ (first.canonical .none).1 = (second.canonical .none).1 ∧
      first.trimmed = second.trimmed :=
  have same : ((transcriptOver (bytesFromString " tcp ")).canonical .none).1 =
      ((transcriptOver (bytesFromString "tcp")).canonical .none).1 := by decide
  ⟨by decide, same, canonical_determines.1 _ _
    (by simp [ClientProofTranscript.Short, transcriptOver, bytesFromString])
    (by simp [ClientProofTranscript.Short, transcriptOver, bytesFromString])
    (by decide) (by decide) same⟩

end Rstream.Webtty
