import Rstream.Webtty.Cli.CanonicalJson
import Rstream.Webtty.Cli.Enrollment
import Rstream.Webtty.PayloadSuites

/-!
# Credentials of workspace clients

A server that is managed by a workspace accepts the signing key of a client on the word of the
workspace. The credential of the client carries a statement about one of the devices of the
workspace, signed by the trust key that the enrollment of the server pins; the statement names the
device by the fingerprint of its keys, and the credential spells these keys out. Every link of the
chain is a comparison of texts, where a member that is missing, or is no string, reads as the empty
text.
-/

namespace Rstream.Webtty.Cli

open Library List

/-! ## The source -/

/-- What the source uses of OpenSSL and of the JSON library. -/
structure Toolkit where
  prims : Primitives
  /-- `parse_public_key_der` reads a key. -/
  parsesPublicKey : Bytes → Bool
  /-- `EVP_PKEY_verify` of a key, a digest and a signature. -/
  evpVerify : Bytes → Bytes → Bytes → Bool
  /-- `p256_p1363_signature_to_der`, which yields nothing when it fails. -/
  p1363ToDer : Bytes → Bytes
  /-- `dump` of a string. -/
  dump : Bytes → Bytes
  /-- `nlohmann::json::parse`, which throws on what is no JSON. -/
  parse : Bytes → Option Json
  stringDump : StringDump dump
  /-- Objects are ordered maps. -/
  ordered : ∀ text value, parse text = some value → value.Ordered

def workspaceJsonString (value : Json) (key : String) : Bytes :=
  match value.find? (bytesFromString key) with
  | some (.string text) => text
  | _ => []

/-- What `workspace_public_key_fingerprint` hashes; the members are in the order of their keys. -/
def publicKeysPayload (publicEncryptionKey publicSigningKey : Bytes) : Json :=
  .object [(bytesFromString "public_encryption_key", .string publicEncryptionKey),
    (bytesFromString "public_signing_key", .string publicSigningKey),
    (bytesFromString "type", .string (bytesFromString "workspace.public_keys")),
    (bytesFromString "v", .integer 1)]

section Source

variable (tools : Toolkit)

def workspaceSha256Base64url (value : Json) : Except String Bytes := do
  let canonical ← workspaceCanonicalJson tools.dump value
  .ok (base64urlEncode (tools.prims.sha256 canonical))

def workspacePublicKeyFingerprint (publicEncryptionKey publicSigningKey : Bytes) :
    Except String Bytes := do
  let hash ← workspaceSha256Base64url tools (publicKeysPayload publicEncryptionKey publicSigningKey)
  .ok (bytesFromString "sha256:" ++ hash)

def verifyDigestSignature (publicKey digest signature : Bytes) : Bool :=
  decide (digest.length = 32) && decide (signature ≠ []) && tools.parsesPublicKey publicKey &&
    tools.evpVerify publicKey digest signature

/-- `verify_p256_sha256_signature`, which also takes a signature of two numbers. -/
def verifyP256Sha256Signature (publicKey message signature : Bytes) : Bool :=
  let hash := tools.prims.sha256 message
  verifyDigestSignature tools publicKey hash signature ||
    (decide (signature.length = 64) && decide (tools.p1363ToDer signature ≠ []) &&
      verifyDigestSignature tools publicKey hash (tools.p1363ToDer signature))

def verifyWorkspaceSignature (publicSigningKey : Bytes) (payload : Json) (signature : Bytes)
    (label : String) : Except String PUnit := do
  let publicKey ← base64urlDecode publicSigningKey 0 (label ++ " public signing key")
  let sig ← base64urlDecode signature 0 (label ++ " signature")
  let canonical ← workspaceCanonicalJson tools.dump payload
  require (verifyP256Sha256Signature tools publicKey canonical sig)
    (label ++ " signature is invalid")

def workspaceTrustPayloadMatches (enrollment : ServerEnrollment) (credential trustPayload : Json) :
    Bool :=
  if workspaceJsonString trustPayload "workspace_id" ≠ enrollment.workspaceId then false
  else
    let deviceFingerprint := workspaceJsonString credential "device_fingerprint"
    let deviceKeyId := workspaceJsonString credential "device_key_id"
    let type := workspaceJsonString trustPayload "type"
    if type = bytesFromString "workspace.keyset.setup" then
      decide (workspaceJsonString trustPayload "keyset_fingerprint" =
          enrollment.workspaceTrustKeysetFingerprint) &&
        decide (workspaceJsonString trustPayload "keyset_public_signing_key" =
          enrollment.workspaceTrustPublicSigningKey) &&
        decide (workspaceJsonString trustPayload "device_fingerprint" = deviceFingerprint)
    else if type = bytesFromString "workspace.device.approve" then
      decide (workspaceJsonString trustPayload "keyset_id" =
          enrollment.workspaceTrustKeysetId) &&
        decide (workspaceJsonString trustPayload "target_device_key_id" = deviceKeyId) &&
        decide (workspaceJsonString trustPayload "target_fingerprint" = deviceFingerprint)
    else if type = bytesFromString "workspace.recovery_kit.use" then
      decide (workspaceJsonString trustPayload "keyset_id" =
          enrollment.workspaceTrustKeysetId) &&
        decide (workspaceJsonString trustPayload "device_fingerprint" = deviceFingerprint)
    else false

/-- `envelope.value("v", 0)`. -/
def envelopeVersion (envelope : Json) : Except String Int32 :=
  match envelope.find? (bytesFromString "v") with
  | none => .ok 0
  | some value =>
    match value.getInt with
    | none => .error "json.exception.type_error"
    | some version => .ok version

/-- The payload of a credential: the parse and the first check of the source. -/
def credentialPayload (credential : Bytes) : Except String Json :=
  match tools.parse credential with
  | none => .error "json.exception.parse_error"
  | some envelope => do
      let invalid := "workspace-managed WebTTY client credential is invalid"
      require envelope.isObject invalid
      let version ← envelopeVersion envelope
      require (version = 1) invalid
      match envelope.find? (bytesFromString "payload") with
      | none => .error invalid
      | some payload =>
        require payload.isObject invalid
        .ok payload

/-- The trust payload of a credential. -/
def trustPayload (payload : Json) : Except String Json :=
  let invalid := "workspace-managed WebTTY client credential trust payload is invalid"
  match payload.find? (bytesFromString "trust_payload") with
  | none => .error invalid
  | some trust => do
      require trust.isObject invalid
      .ok trust

def envelopeSignature (credential : Bytes) : Bytes :=
  match tools.parse credential with
  | none => []
  | some envelope => workspaceJsonString envelope "signature"

def verifyWorkspaceClientCredential (enrollment : ServerEnrollment)
    (clientKeyId clientPublicKey credential : Bytes) : Except String (Option Bytes) :=
  if credential = [] then .ok none
  else do
    let payload ← credentialPayload tools credential
    let text := workspaceJsonString payload
    require (text "type" = bytesFromString "workspace.webtty.client.credential")
      "workspace-managed WebTTY client credential has an unsupported type"
    require (text "workspace_id" = enrollment.workspaceId ∧
        text "project_id" = enrollment.projectId ∧ text "server_id" = enrollment.serverId)
      "workspace-managed WebTTY client credential does not match this server"
    require (text "trust_keyset_id" = enrollment.workspaceTrustKeysetId)
      "workspace-managed WebTTY client credential keyset does not match server enrollment"
    require (text "client_signing_key_id" = base64urlEncode clientKeyId)
      "workspace-managed WebTTY client credential signing key id does not match proof"
    let publicSigningKey := text "client_signing_public_key"
    let devicePublicSigningKey := text "device_public_signing_key"
    require (publicSigningKey ≠ [] ∧ publicSigningKey = devicePublicSigningKey)
      "workspace-managed WebTTY client credential signing key does not match trusted device"
    let publicSigningKeyBytes ← base64urlDecode publicSigningKey 0
      "workspace-managed WebTTY client signing public key"
    require (publicSigningKeyBytes = clientPublicKey)
      "workspace-managed WebTTY client credential signing key does not match proof"
    let fingerprint ← workspacePublicKeyFingerprint tools (text "device_public_encryption_key")
      devicePublicSigningKey
    require (fingerprint = text "device_fingerprint")
      ("workspace-managed WebTTY client credential device fingerprint does not match public " ++
        "keys")
    let trust ← trustPayload payload
    let trustHash ← workspaceSha256Base64url tools trust
    require (trustHash = text "trust_payload_hash")
      ("workspace-managed WebTTY client credential trust payload hash does not match " ++
        "payload")
    require (workspaceTrustPayloadMatches enrollment payload trust)
      "workspace-managed WebTTY client credential trust payload does not match device"
    verifyWorkspaceSignature tools enrollment.workspaceTrustPublicSigningKey trust
      (text "trust_keyset_signature") "workspace-managed WebTTY device trust"
    verifyWorkspaceSignature tools publicSigningKey payload (envelopeSignature tools credential)
      "workspace-managed WebTTY client credential"
    .ok (some clientPublicKey)

end Source

/-! ## Reading texts of objects -/

/-- The text of a value that may be missing. -/
def textOf : Option Json → Bytes
  | some (.string text) => text
  | _ => []

theorem workspaceJsonString_eq_textOf (value : Json) (key : String) :
    workspaceJsonString value key = textOf (value.find? (bytesFromString key)) := by
  unfold workspaceJsonString textOf
  rfl

variable {value : Json} {members : List (Bytes × Json)} {message : Bytes}

/-- A text that is not empty is that of a member. -/
theorem find?_of_workspaceJsonString {key : String} (present : workspaceJsonString value key ≠ []) :
    value.find? (bytesFromString key) = some (.string (workspaceJsonString value key)) := by
  unfold workspaceJsonString at present ⊢
  split
  · assumption
  · rename_i other
    split at present
    · exact absurd ‹_› (other _)
    · exact absurd rfl present

theorem textOf_dropNulls (value : Json) : textOf (some value.dropNulls) = textOf (some value) := by
  cases value <;> rfl

theorem textOf_find?_dropMembers (key : Bytes)
    (sorted : members.Pairwise fun first second => first.1 < second.1) :
    textOf (((Json.dropMembers members).find? fun member => member.1 == key).map Prod.snd) =
      textOf ((members.find? fun member => member.1 == key).map Prod.snd) := by
  induction members with
  | nil => rfl
  | cons member rest ih =>
    obtain ⟨name, value⟩ := member
    obtain ⟨above, sorted⟩ := pairwise_cons.mp sorted
    rw [Json.dropMembers]
    by_cases same : name = key
    · subst same
      have here : ∀ (value : Json) (rest : List (Bytes × Json)),
          ((name, value) :: rest).find? (fun member => member.1 == name) =
            some (name, value) := by
        intro value rest
        simp only [find?_cons, beq_self_eq_true]
      split
      · rename_i null
        have absent : rest.find? (fun member => member.1 == name) = none := by
          apply find?_eq_none.mpr
          intro member mem found
          have less := above member mem
          rw [beq_iff_eq.mp found] at less
          exact List.lt_irrefl name less
        rw [ih sorted, absent, here]
        cases value with
        | null => rfl
        | _ => cases null
      · rw [here, here]
        exact textOf_dropNulls value
    · have past : ∀ (value : Json) (rest : List (Bytes × Json)),
          ((name, value) :: rest).find? (fun member => member.1 == key) =
            rest.find? fun member => member.1 == key := by
        intro value rest
        simp only [find?_cons, beq_eq_false_iff_ne.mpr same]
      split
      · rw [ih sorted, past]
      · rw [past, past, ih sorted]

/-- Dropping null members leaves the texts alone. -/
theorem workspaceJsonString_dropNulls (ordered : value.Ordered) (key : String) :
    workspaceJsonString value.dropNulls key = workspaceJsonString value key := by
  rw [workspaceJsonString_eq_textOf, workspaceJsonString_eq_textOf]
  cases value with
  | object members => exact textOf_find?_dropMembers _ ordered.1
  | _ => rfl

/-- The fingerprint that a statement about a device names. -/
def namedFingerprint (trust : Json) : Bytes :=
  if workspaceJsonString trust "type" = bytesFromString "workspace.device.approve" then
    workspaceJsonString trust "target_fingerprint"
  else workspaceJsonString trust "device_fingerprint"

theorem namedFingerprint_eq {tools : Toolkit} {trust other : Json} {text : Bytes}
    (ordered : trust.Ordered) (ordered' : other.Ordered)
    (written : workspaceCanonicalJson tools.dump trust = .ok text)
    (written' : workspaceCanonicalJson tools.dump other = .ok text) :
    namedFingerprint trust = namedFingerprint other := by
  have same := dropNulls_eq_of_text tools.stringDump written written'
  have texts : ∀ key, workspaceJsonString trust key = workspaceJsonString other key := by
    intro key
    rw [← workspaceJsonString_dropNulls ordered, same, workspaceJsonString_dropNulls ordered']
  rw [namedFingerprint, namedFingerprint, texts, texts, texts]

/-! ## The chain -/

section Chain

variable {tools : Toolkit} {enrollment : ServerEnrollment}

variable {payload trust : Json} {credential : Bytes}

theorem matches_links (accepted : workspaceTrustPayloadMatches enrollment payload trust = true) :
    workspaceJsonString trust "workspace_id" = enrollment.workspaceId ∧
      namedFingerprint trust = workspaceJsonString payload "device_fingerprint" := by
  rw [workspaceTrustPayloadMatches] at accepted
  split at accepted
  · cases accepted
  rename_i workspace
  refine ⟨not_not.mp workspace, ?_⟩
  unfold namedFingerprint
  simp only at accepted
  split at accepted
  · rename_i setup
    rw [if_neg (by rw [setup]; decide)]
    simp only [Bool.and_eq_true, decide_eq_true_eq] at accepted
    exact accepted.2
  split at accepted
  · rename_i approve
    rw [if_pos approve]
    simp only [Bool.and_eq_true, decide_eq_true_eq] at accepted
    exact accepted.2
  split at accepted
  · rename_i approve _
    rw [if_neg approve]
    simp only [Bool.and_eq_true, decide_eq_true_eq] at accepted
    exact accepted.2
  · cases accepted

/-- A signature that is accepted was made. -/
theorem signed_of_verify {signed : Bytes → Bytes → Prop} (unforgeable : ∀ key message signature,
      tools.evpVerify key (tools.prims.sha256 message) signature = true → signed key message)
    {publicSigningKey : Bytes} {signature : Bytes} {label : String} {done : PUnit}
    (verified : verifyWorkspaceSignature tools publicSigningKey payload signature
      label = .ok done) :
    ∃ key message, trimCopy publicSigningKey = base64urlEncode key ∧
      workspaceCanonicalJson tools.dump payload = .ok message ∧ signed key message := by
  simp only [verifyWorkspaceSignature, bind_eq_ok, require_eq_ok] at verified
  obtain ⟨key, decoded, sig, -, message, written, checked⟩ := verified
  refine ⟨key, message, (base64urlDecode_ok_iff.mp decoded).1, written, ?_⟩
  simp only [verifyP256Sha256Signature, verifyDigestSignature, Bool.or_eq_true,
    Bool.and_eq_true] at checked
  obtain ⟨-, checked⟩ | ⟨-, -, checked⟩ := checked
  · exact unforgeable key message _ checked
  · exact unforgeable key message _ checked

/-- What an accepted credential is made of. -/
structure Accepted (tools : Toolkit) (enrollment : ServerEnrollment)
    (clientPublicKey credential : Bytes) (payload trust : Json) : Prop where
  nonempty : credential ≠ []
  payload_eq : credentialPayload tools credential = .ok payload
  trust_eq : trustPayload payload = .ok trust
  signingKey : trimCopy (workspaceJsonString payload "device_public_signing_key") =
    base64urlEncode clientPublicKey
  fingerprint : workspacePublicKeyFingerprint tools
    (workspaceJsonString payload "device_public_encryption_key")
    (workspaceJsonString payload "device_public_signing_key") =
      .ok (workspaceJsonString payload "device_fingerprint")
  links : workspaceTrustPayloadMatches enrollment payload trust = true
  verified : verifyWorkspaceSignature tools enrollment.workspaceTrustPublicSigningKey trust
    (workspaceJsonString payload "trust_keyset_signature") "workspace-managed WebTTY device trust" =
      .ok ⟨⟩

theorem accepted_of_verify {clientKeyId clientPublicKey key : Bytes}
    (verified : verifyWorkspaceClientCredential tools enrollment clientKeyId clientPublicKey
      credential = .ok (some key)) :
    key = clientPublicKey ∧
      ∃ payload trust, Accepted tools enrollment clientPublicKey credential payload trust := by
  rw [verifyWorkspaceClientCredential] at verified
  split at verified
  · cases verified
  rename_i nonempty
  simp only [bind_eq_ok, require_eq_ok] at verified
  obtain ⟨payload, read, _, -, _, -, _, -, _, -, _, ⟨-, same⟩, bytes, decoded, _, rfl,
    fingerprint, computed, _, rfl, trust, inner, trustHash, -, _, -, _, links, done, signed, _, -,
    result⟩ := verified
  refine ⟨(Option.some.inj (Except.ok.inj result)).symm, payload, trust, nonempty, read, inner,
    ?_, computed, links, signed⟩
  rw [← same]
  exact (base64urlDecode_ok_iff.mp decoded).1

theorem ordered_trust (read : credentialPayload tools credential = .ok payload)
    (inner : trustPayload payload = .ok trust) : trust.Ordered := by
  have payloadOrdered : payload.Ordered := by
    rw [credentialPayload] at read
    split at read
    · cases read
    rename_i envelope parsed
    simp only [bind_eq_ok] at read
    obtain ⟨_, -, _, -, _, -, found⟩ := read
    split at found
    · cases found
    rename_i value member
    rw [bind_eq_ok] at found
    obtain ⟨_, -, same⟩ := found
    obtain rfl := Except.ok.inj same
    exact Json.ordered_of_find? (tools.ordered _ _ parsed) member
  rw [trustPayload] at inner
  split at inner
  · cases inner
  rename_i value member
  rw [bind_eq_ok] at inner
  obtain ⟨_, -, same⟩ := inner
  obtain rfl := Except.ok.inj same
  exact Json.ordered_of_find? payloadOrdered member

theorem workspacePublicKeyFingerprint_inj {hashed : Set Bytes}
    (collisionFree : Set.InjOn tools.prims.sha256 hashed)
    {encryption signing encryption' signing' fingerprint : Bytes}
    (within : ∀ text, workspaceCanonicalJson tools.dump (publicKeysPayload encryption signing) =
      .ok text → text ∈ hashed)
    (within' : ∀ text, workspaceCanonicalJson tools.dump
      (publicKeysPayload encryption' signing') = .ok text → text ∈ hashed)
    (computed : workspacePublicKeyFingerprint tools encryption signing = .ok fingerprint)
    (computed' : workspacePublicKeyFingerprint tools encryption' signing' = .ok fingerprint) :
    encryption = encryption' ∧ signing = signing' := by
  simp only [workspacePublicKeyFingerprint, workspaceSha256Base64url, bind_eq_ok] at computed
  simp only [workspacePublicKeyFingerprint, workspaceSha256Base64url, bind_eq_ok] at computed'
  obtain ⟨_, ⟨text, written, hash⟩, result⟩ := computed
  obtain ⟨_, ⟨text', written', hash'⟩, result'⟩ := computed'
  obtain rfl := Except.ok.inj hash
  obtain rfl := Except.ok.inj hash'
  have words := append_cancel_left
    ((Except.ok.inj result).trans (Except.ok.inj result').symm)
  have texts : text = text' := collisionFree (within text written) (within' text' written')
    (base64urlEncode_injective words)
  rw [← texts] at written'
  have same := dropNulls_eq_of_text tools.stringDump written written'
  simp only [publicKeysPayload, Json.dropNulls, Json.dropMembers, Json.isNull, Bool.false_eq_true,
    if_false, Json.object.injEq, cons.injEq, Prod.mk.injEq, Json.string.injEq, true_and,
    and_true] at same
  exact same

end Chain

/-! ## Soundness -/

/-- The canonical text of the trust payload of a credential. -/
def TrustText (tools : Toolkit) (credential text : Bytes) : Prop :=
  ∃ payload trust, credentialPayload tools credential = .ok payload ∧
    trustPayload payload = .ok trust ∧ workspaceCanonicalJson tools.dump trust = .ok text

/-- The text of the device keys of a credential, which its fingerprint hashes. -/
def KeyText (tools : Toolkit) (credential text : Bytes) : Prop :=
  ∃ payload, credentialPayload tools credential = .ok payload ∧
    workspaceCanonicalJson tools.dump (publicKeysPayload
      (workspaceJsonString payload "device_public_encryption_key")
      (workspaceJsonString payload "device_public_signing_key")) = .ok text

/-- In the credential is a statement, signed by the trust key of the workspace, about a device of the
workspace whose signing key is the key of the client. -/
def Vouched (tools : Toolkit) (signed : Bytes → Bytes → Prop) (enrollment : ServerEnrollment)
    (clientPublicKey credential : Bytes) : Prop :=
  ∃ payload trust trustKey message encryptionKey signingKey,
    credentialPayload tools credential = .ok payload ∧ trustPayload payload = .ok trust ∧
    trimCopy enrollment.workspaceTrustPublicSigningKey = base64urlEncode trustKey ∧
    workspaceCanonicalJson tools.dump trust = .ok message ∧ signed trustKey message ∧
    trust.find? (bytesFromString "workspace_id") = some (.string enrollment.workspaceId) ∧
    trimCopy signingKey = base64urlEncode clientPublicKey ∧
    workspacePublicKeyFingerprint tools encryptionKey signingKey = .ok (namedFingerprint trust)

/-- **Credentials of workspace clients are sound.** When signatures cannot be forged, a key is
accepted only for a credential in which the workspace vouches for it; and when the hashes of device
keys do not collide, credentials with the same statement are accepted for the same key. -/
theorem workspace_credential_sound {tools : Toolkit} {signed : Bytes → Bytes → Prop}
    (unforgeable : ∀ key message signature,
      tools.evpVerify key (tools.prims.sha256 message) signature = true → signed key message)
    {hashed : Set Bytes} (collisionFree : Set.InjOn tools.prims.sha256 hashed)
    {document : EnrollmentDocument} {enrollment : ServerEnrollment}
    (loaded : loadServerEnrollment tools.prims tools.parsesPublicKey document = .ok enrollment)
    (managed : enrollment.encryptionPolicy = workspaceManaged) :
    (∀ clientKeyId clientPublicKey credential key : Bytes,
      verifyWorkspaceClientCredential tools enrollment clientKeyId clientPublicKey credential =
        .ok (some key) →
      credential ≠ [] ∧ key = clientPublicKey ∧
        Vouched tools signed enrollment clientPublicKey credential) ∧
    (∀ (other : ServerEnrollment) (clientKeyId clientPublicKey credential key : Bytes)
        (clientKeyId' clientPublicKey' credential' key' text : Bytes),
      verifyWorkspaceClientCredential tools enrollment clientKeyId clientPublicKey credential =
        .ok (some key) →
      verifyWorkspaceClientCredential tools other clientKeyId' clientPublicKey' credential' =
        .ok (some key') →
      TrustText tools credential text → TrustText tools credential' text →
      (∀ keys, KeyText tools credential keys ∨ KeyText tools credential' keys → keys ∈ hashed) →
        clientPublicKey = clientPublicKey') := by
  refine ⟨?_, ?_⟩
  · intro clientKeyId clientPublicKey credential key verified
    obtain ⟨same, payload, trust, accepted⟩ := accepted_of_verify verified
    obtain ⟨trustKey, message, decoded, written, made⟩ :=
      signed_of_verify unforgeable accepted.verified
    obtain ⟨workspace, fingerprint⟩ := matches_links accepted.links
    have pinned : workspaceJsonString trust "workspace_id" ≠ [] := by
      rw [workspace]
      exact (pins_of_loadServerEnrollment loaded managed).1
    have member := find?_of_workspaceJsonString pinned
    rw [workspace] at member
    refine ⟨accepted.nonempty, same, payload, trust, trustKey, message,
      workspaceJsonString payload "device_public_encryption_key",
      workspaceJsonString payload "device_public_signing_key", accepted.payload_eq,
      accepted.trust_eq, decoded, written, made, member, accepted.signingKey, ?_⟩
    rw [fingerprint]
    exact accepted.fingerprint
  · rintro other clientKeyId clientPublicKey credential key clientKeyId' clientPublicKey'
      credential' key' text verified verified' ⟨payload, trust, read, inner, written⟩
      ⟨payload', trust', read', inner', written'⟩ within
    obtain ⟨-, payload₁, trust₁, accepted⟩ := accepted_of_verify verified
    obtain ⟨-, payload₂, trust₂, accepted'⟩ := accepted_of_verify verified'
    obtain rfl := Except.ok.inj (read.symm.trans accepted.payload_eq)
    obtain rfl := Except.ok.inj (read'.symm.trans accepted'.payload_eq)
    obtain rfl := Except.ok.inj (inner.symm.trans accepted.trust_eq)
    obtain rfl := Except.ok.inj (inner'.symm.trans accepted'.trust_eq)
    have named := namedFingerprint_eq (ordered_trust read inner) (ordered_trust read' inner')
      written written'
    have fingerprint := accepted.fingerprint
    rw [← (matches_links accepted.links).2, named, (matches_links accepted'.links).2]
      at fingerprint
    obtain ⟨-, signing⟩ := workspacePublicKeyFingerprint_inj collisionFree
      (fun keys text => within keys (Or.inl ⟨payload, read, text⟩))
      (fun keys text => within keys (Or.inr ⟨payload', read', text⟩)) fingerprint
      accepted'.fingerprint
    have words := accepted.signingKey
    rw [signing, accepted'.signingKey] at words
    exact (base64urlEncode_injective words).symm

/-! ## A credential that is accepted -/

/-- The trust key of the workspace, the signing key of the device and the signatures that they
make. -/
def sampleTrustKey : Bytes :=
  [48, 89, 48, 19, 6, 7, 42, 134, 72, 206, 61, 2, 1, 6, 8, 42, 134, 72, 206, 61, 3, 1, 7, 3, 66,
   0, 4, 9, 23, 14, 97, 230, 133, 96, 194, 66, 26, 189, 189, 31, 217, 164, 172, 245, 63, 214,
   82, 255, 172, 192, 246, 202, 218, 198, 128, 171, 208, 96, 18, 236, 223, 18, 72, 74, 214, 12,
   239, 95, 150, 75, 133, 84, 188, 111, 246, 230, 117, 98, 152, 78, 92, 14, 70, 80, 93, 200,
   113, 188, 116, 27, 104]

def sampleDeviceKey : Bytes :=
  [48, 89, 48, 19, 6, 7, 42, 134, 72, 206, 61, 2, 1, 6, 8, 42, 134, 72, 206, 61, 3, 1, 7, 3, 66,
   0, 4, 200, 171, 38, 75, 95, 213, 219, 13, 170, 219, 7, 69, 9, 237, 253, 233, 24, 113, 149,
   65, 156, 47, 254, 227, 108, 225, 119, 174, 62, 142, 199, 226, 183, 122, 14, 250, 233, 220,
   147, 230, 26, 231, 91, 80, 225, 243, 156, 146, 133, 179, 153, 185, 40, 55, 38, 67, 203, 158,
   196, 196, 156, 229, 109, 231]

def sampleTrustSignature : Bytes :=
  [48, 68, 2, 32, 97, 86, 35, 216, 68, 7, 148, 38, 170, 192, 72, 189, 0, 90, 76, 33, 195, 96,
   33, 66, 233, 122, 246, 230, 180, 97, 104, 111, 137, 100, 34, 13, 2, 32, 35, 38, 115, 134,
   103, 180, 143, 18, 168, 118, 222, 182, 65, 168, 146, 223, 27, 145, 182, 223, 47, 169, 171,
   81, 152, 206, 180, 158, 246, 247, 212, 126]

def sampleSignature : Bytes :=
  [48, 68, 2, 32, 124, 166, 237, 93, 234, 145, 67, 50, 229, 11, 166, 211, 180, 160, 103, 54,
   194, 217, 92, 112, 79, 145, 150, 141, 210, 162, 249, 208, 72, 8, 45, 10, 2, 32, 27, 190, 110,
   196, 110, 66, 114, 60, 84, 209, 79, 249, 39, 178, 131, 93, 72, 100, 19, 244, 28, 166, 86, 87,
   42, 161, 119, 164, 216, 133, 150, 76]

/-- The digests of the texts that are hashed. -/
def sampleTrustDigest : Bytes :=
  [54, 156, 2, 52, 75, 215, 188, 48, 4, 219, 107, 207, 38, 220, 151, 94, 1, 57, 157, 110, 173,
   148, 98, 234, 53, 69, 118, 197, 246, 159, 94, 175]

def samplePayloadDigest : Bytes :=
  [36, 66, 1, 24, 165, 151, 202, 209, 192, 53, 0, 146, 251, 217, 210, 97, 227, 145, 81, 161,
   100, 147, 106, 82, 62, 61, 153, 149, 215, 75, 239, 43]

def sampleKeyDigest : Bytes :=
  [95, 5, 15, 64, 39, 16, 80, 106, 71, 199, 154, 52, 123, 192, 21, 220, 118, 24, 145, 46, 113,
   117, 84, 96, 90, 191, 28, 120, 225, 3, 62, 110]

def sampleServerDigest : Bytes :=
  [99, 13, 205, 41, 102, 196, 51, 102, 145, 18, 84, 72, 187, 178, 91, 79, 244, 18, 164, 156,
   115, 45, 178, 200, 171, 193, 184, 88, 27, 215, 16, 221]

/-- The encryption keys of the server and of the device. -/
def sampleServerKey : Bytes := (List.range 32).map UInt8.ofNat

def sampleEncryptionKey : Bytes := (List.range 32).map fun index => UInt8.ofNat (32 + index)

/-- A member whose value is a string. -/
def textMember (key : String) (value : Bytes) : Bytes × Json := (bytesFromString key, .string value)

def sampleFingerprint : Bytes := bytesFromString "sha256:" ++ base64urlEncode sampleKeyDigest

/-- The statement about the device. -/
def sampleTrust : Json := .object
  [textMember "device_fingerprint" sampleFingerprint,
    textMember "keyset_id" (bytesFromString "ks1"),
    textMember "type" (bytesFromString "workspace.recovery_kit.use"),
    textMember "workspace_id" (bytesFromString "ws1")]

def samplePayload : Json := .object
  [textMember "client_signing_key_id" (base64urlEncode (List.replicate 32 7)),
    textMember "client_signing_public_key" (base64urlEncode sampleDeviceKey),
    textMember "device_fingerprint" sampleFingerprint,
    textMember "device_public_encryption_key" (base64urlEncode sampleEncryptionKey),
    textMember "device_public_signing_key" (base64urlEncode sampleDeviceKey),
    textMember "project_id" (bytesFromString "p1"),
    textMember "server_id" (bytesFromString "s1"),
    textMember "trust_keyset_id" (bytesFromString "ks1"),
    textMember "trust_keyset_signature" (base64urlEncode sampleTrustSignature),
    (bytesFromString "trust_payload", sampleTrust),
    textMember "trust_payload_hash" (base64urlEncode sampleTrustDigest),
    textMember "type" (bytesFromString "workspace.webtty.client.credential"),
    textMember "workspace_id" (bytesFromString "ws1")]

def sampleEnvelope : Json := .object
  [(bytesFromString "payload", samplePayload),
    textMember "signature" (base64urlEncode sampleSignature), (bytesFromString "v", .integer 1)]

/-- The text of a value without floats. -/
def textOfJson (value : Json) : Bytes :=
  match workspaceCanonicalJson dumpString value with
  | .ok text => text
  | .error _ => []

/-- The text of the device keys. -/
def sampleKeyText : Bytes := textOfJson (publicKeysPayload (base64urlEncode sampleEncryptionKey)
  (base64urlEncode sampleDeviceKey))

def sampleSha256 (message : Bytes) : Bytes :=
  if message = textOfJson sampleTrust then sampleTrustDigest
  else if message = textOfJson samplePayload then samplePayloadDigest
  else if message = sampleKeyText then sampleKeyDigest
  else if message = sampleServerKey then sampleServerDigest
  else List.replicate 32 0

/-- Members are in the order of their keys when each key is below the next one. -/
theorem pairwise_of_keys (sorted : (members.map Prod.fst).IsChain (· < ·)) :
    members.Pairwise fun first second => first.1 < second.1 :=
  pairwise_map.mp (isChain_iff_pairwise.mp sorted)

/-- The two keys sign one text each. -/
def sampleTools : Toolkit where
  prims := { smallPrims with
    sha256 := sampleSha256
    sha256_length := by
      intro message
      unfold sampleSha256
      split
      · decide
      split
      · decide
      split
      · decide
      split
      · decide
      · exact List.length_replicate }
  parsesPublicKey key := decide (key = sampleTrustKey ∨ key = sampleDeviceKey)
  evpVerify key digest signature := decide
    ((key = sampleTrustKey ∧ digest = sampleSha256 (textOfJson sampleTrust) ∧
        signature = sampleTrustSignature) ∨
      (key = sampleDeviceKey ∧ digest = sampleSha256 (textOfJson samplePayload) ∧
        signature = sampleSignature))
  p1363ToDer _ := []
  dump := dumpString
  parse text := if text = textOfJson sampleEnvelope then some sampleEnvelope else none
  stringDump := dumpString_stringDump
  ordered text value parsed := by
    have trust : sampleTrust.Ordered := by
      refine ⟨pairwise_of_keys (by decide), ?_⟩
      exact ⟨trivial, trivial, trivial, trivial, trivial⟩
    have payload : samplePayload.Ordered := by
      refine ⟨pairwise_of_keys (by decide), ?_⟩
      exact ⟨trivial, trivial, trivial, trivial, trivial, trivial, trivial, trivial, trivial,
        trust, trivial, trivial, trivial, trivial⟩
    split at parsed
    · obtain rfl := Option.some.inj parsed
      refine ⟨pairwise_of_keys (by decide), ?_⟩
      exact ⟨payload, trivial, trivial, trivial⟩
    · cases parsed

/-- What the two keys have signed. -/
def SampleSigned (key message : Bytes) : Prop :=
  (key = sampleTrustKey ∧ message = textOfJson sampleTrust) ∨
    (key = sampleDeviceKey ∧ message = textOfJson samplePayload)

theorem eq_sampleTrust (same : sampleSha256 message = sampleSha256 (textOfJson sampleTrust)) :
    message = textOfJson sampleTrust := by
  have digest : sampleSha256 (textOfJson sampleTrust) = sampleTrustDigest := if_pos rfl
  rw [digest] at same
  by_contra other
  rw [sampleSha256, if_neg other] at same
  split at same
  · exact absurd same (by decide)
  split at same
  · exact absurd same (by decide)
  split at same
  · exact absurd same (by decide)
  · exact absurd same (by decide)

theorem eq_samplePayload (same : sampleSha256 message = sampleSha256 (textOfJson samplePayload)) :
    message = textOfJson samplePayload := by
  have digest : sampleSha256 (textOfJson samplePayload) = samplePayloadDigest := by
    rw [sampleSha256, if_neg (by decide), if_pos rfl]
  rw [digest] at same
  by_contra other
  rw [sampleSha256] at same
  split at same
  · exact absurd same (by decide)
  split at same
  · exact absurd same (by decide)
  split at same
  · exact absurd same (by decide)
  · exact absurd same (by decide)

theorem sample_unforgeable (key message signature : Bytes)
    (verified : sampleTools.evpVerify key (sampleTools.prims.sha256 message) signature = true) :
    SampleSigned key message := by
  obtain ⟨made, same, -⟩ | ⟨made, same, -⟩ := of_decide_eq_true verified
  · exact Or.inl ⟨made, eq_sampleTrust same⟩
  · exact Or.inr ⟨made, eq_samplePayload same⟩

/-- The enrollment of the server. -/
def sampleDocument : EnrollmentDocument where
  version := some 1
  scalar key := [("serverId", bytesFromString "s1"), ("projectId", bytesFromString "p1"),
    ("workspaceId", bytesFromString "ws1"), ("identityFile", bytesFromString "id.json"),
    ("serverPublicKey", base64urlEncode sampleServerKey),
    ("serverFingerprint", bytesFromString "sha256:" ++ base64urlEncode sampleServerDigest),
    ("serverKeyAlgorithm", bytesFromString "webtty-x25519-hpke-v1"),
    ("workspaceTrustKeysetId", bytesFromString "ks1"),
    ("workspaceTrustKeysetFingerprint", bytesFromString "sha256:k"),
    ("workspaceTrustPublicSigningKey", base64urlEncode sampleTrustKey),
    ("encryptionPolicy", workspaceManaged)].lookup key

def sampleEnrollment : ServerEnrollment where
  version := 1
  serverId := bytesFromString "s1"
  serverName := []
  workspaceId := bytesFromString "ws1"
  projectId := bytesFromString "p1"
  apiUrl := []
  identityFile := bytesFromString "id.json"
  serverPublicKey := base64urlEncode sampleServerKey
  serverSigningKeyId := []
  serverSigningPublicKey := []
  serverFingerprint := bytesFromString "sha256:" ++ base64urlEncode sampleServerDigest
  serverKeyAlgorithm := bytesFromString "webtty-x25519-hpke-v1"
  workspaceTrustKeysetId := bytesFromString "ks1"
  workspaceTrustKeysetFingerprint := bytesFromString "sha256:k"
  workspaceTrustPublicSigningKey := base64urlEncode sampleTrustKey
  encryptionPolicy := workspaceManaged
  enrollmentStatus := []

/-- The credential is accepted, and the workspace has vouched for its key. -/
theorem sampleCredential_vouched :
    verifyWorkspaceClientCredential sampleTools sampleEnrollment (replicate 32 7)
        (sampleDeviceKey) (textOfJson sampleEnvelope) =
      .ok (some (sampleDeviceKey)) ∧
    Vouched sampleTools SampleSigned sampleEnrollment (sampleDeviceKey)
      (textOfJson sampleEnvelope) := by
  have accepted : verifyWorkspaceClientCredential sampleTools sampleEnrollment
      (replicate 32 7) (sampleDeviceKey) (textOfJson sampleEnvelope) =
        .ok (some (sampleDeviceKey)) := by decide +kernel
  have loaded : loadServerEnrollment sampleTools.prims sampleTools.parsesPublicKey
      sampleDocument = .ok sampleEnrollment := by decide +kernel
  obtain ⟨sound, -⟩ := workspace_credential_sound sample_unforgeable
    (Set.subsingleton_singleton.injOn _ : Set.InjOn sampleTools.prims.sha256 {sampleKeyText})
    loaded rfl
  exact ⟨accepted, (sound _ _ _ _ accepted).2.2⟩

end Rstream.Webtty.Cli
