import Rstream.Webtty.Cli.EndpointKeys

/-!
# The enrollment of a server

The file that ties a server to a project of the control plane. What is read is checked: the server
has a local name, the fingerprint is that of the public key, the signing key id that of the signing
key, and a server whose clients are authorised by its workspace has the pins of that workspace.
-/

namespace Rstream.Webtty.Cli

open IoRstrm (ErrorCode)
open Library
open Server (EndpointIdentity)

/-! ## Names -/

/-- `std::isalnum` in the C locale. -/
def isAlnum (byte : UInt8) : Bool :=
  (48 ≤ byte && byte ≤ 57) || (65 ≤ byte && byte ≤ 90) || (97 ≤ byte && byte ≤ 122)

def validateLocalName (name : Bytes) (flag : String) : Except String PUnit := do
  let value := trimCopy name
  require (value ≠ []) (flag ++ " is required")
  require (¬(value = [46] ∨ value = [46, 46] ∨ 47 ∈ value ∨ 92 ∈ value))
    (flag ++ " contains unsupported characters")
  require (value.all fun c => isAlnum c || c == 46 || c == 95 || c == 45)
    (flag ++ " contains unsupported characters")

/-! ## The file -/

structure ServerEnrollment where
  version : Int
  serverId : Bytes
  serverName : Bytes
  workspaceId : Bytes
  projectId : Bytes
  apiUrl : Bytes
  identityFile : Bytes
  serverPublicKey : Bytes
  serverSigningKeyId : Bytes
  serverSigningPublicKey : Bytes
  serverFingerprint : Bytes
  serverKeyAlgorithm : Bytes
  workspaceTrustKeysetId : Bytes
  workspaceTrustKeysetFingerprint : Bytes
  workspaceTrustPublicSigningKey : Bytes
  encryptionPolicy : Bytes
  enrollmentStatus : Bytes
  deriving DecidableEq

/-- What the YAML library reads of an enrollment file: `version` is `none` when it is no integer,
and a key without a value is absent. -/
structure EnrollmentDocument where
  version : Option Int
  scalar : String → Option Bytes

/-- `root[key].as<std::string>()`, which throws when the key is absent. -/
def EnrollmentDocument.required (document : EnrollmentDocument) (key : String) :
    Except String Bytes :=
  match document.scalar key with
  | none => .error "bad conversion"
  | some value => .ok value

/-- `root[key] ? root[key].as<std::string>() : ""`. -/
def EnrollmentDocument.orEmpty (document : EnrollmentDocument) (key : String) : Bytes :=
  (document.scalar key).getD []

def serverPublicKeyFingerprint (prims : Primitives) (publicKey : Bytes) : Bytes :=
  bytesFromString "sha256:" ++ base64urlEncode (prims.sha256 publicKey)

/-- The policy of a server whose clients are authorised by its workspace. -/
def workspaceManaged : Bytes := bytesFromString "workspace_managed"

/-- The policy of a server whose clients are authorised by their keys. -/
def explicitKey : Bytes := bytesFromString "explicit_key"

section Source

variable (prims : Primitives) (parsesPublicKey : Bytes → Bool)

/-- The reads of `load_server_enrollment`. -/
def readServerEnrollment (document : EnrollmentDocument) : Except String ServerEnrollment := do
  let version ← match document.version with
    | none => .error "bad conversion"
    | some version => .ok version
  require (version = 1) "unsupported WebTTY server enrollment version"
  let serverId ← document.required "serverId"
  let projectId ← document.required "projectId"
  let identityFile ← document.required "identityFile"
  let serverPublicKey ← document.required "serverPublicKey"
  let serverFingerprint ← document.required "serverFingerprint"
  let serverKeyAlgorithm ← document.required "serverKeyAlgorithm"
  .ok { version, serverId, projectId, identityFile, serverPublicKey, serverFingerprint,
        serverKeyAlgorithm
        serverName := document.orEmpty "serverName"
        workspaceId := document.orEmpty "workspaceId"
        apiUrl := document.orEmpty "apiUrl"
        serverSigningKeyId := document.orEmpty "serverSigningKeyId"
        serverSigningPublicKey := document.orEmpty "serverSigningPublicKey"
        workspaceTrustKeysetId := document.orEmpty "workspaceTrustKeysetId"
        workspaceTrustKeysetFingerprint := document.orEmpty "workspaceTrustKeysetFingerprint"
        workspaceTrustPublicSigningKey := document.orEmpty "workspaceTrustPublicSigningKey"
        encryptionPolicy := document.orEmpty "encryptionPolicy"
        enrollmentStatus := document.orEmpty "enrollmentStatus" }

/-- The check that the signing key id is that of the signing key. -/
def checkSigningKey (enrollment : ServerEnrollment) : Except String PUnit :=
  if enrollment.serverSigningKeyId ≠ [] ∨ enrollment.serverSigningPublicKey ≠ [] then do
    let keyId ← base64urlDecode enrollment.serverSigningKeyId 32 "WebTTY server signing key id"
    let publicKey ←
      base64urlDecode enrollment.serverSigningPublicKey 0 "WebTTY server signing public key"
    let expected := signingKeyId prims parsesPublicKey publicKey
    require (expected.2.failed = false ∧ expected.1 = keyId)
      "WebTTY server enrollment signing key id does not match public key"
  else .ok ⟨⟩

def checkWorkspacePins (enrollment : ServerEnrollment) : Except String PUnit :=
  if enrollment.encryptionPolicy = workspaceManaged then do
    require (¬(enrollment.workspaceId = [] ∨ enrollment.workspaceTrustKeysetId = [] ∨
        enrollment.workspaceTrustKeysetFingerprint = [] ∨
        enrollment.workspaceTrustPublicSigningKey = []))
      "workspace-managed WebTTY server enrollment is missing workspace trust pins"
    require (bytesFromString "sha256:" <+: enrollment.workspaceTrustKeysetFingerprint)
      "workspace-managed WebTTY keyset fingerprint is invalid"
    let _ ← base64urlDecode enrollment.workspaceTrustPublicSigningKey 0
      "workspace-managed WebTTY keyset public signing key"
    .ok ⟨⟩
  else .ok ⟨⟩

/-- `load_server_enrollment`, from the document in the file. -/
def loadServerEnrollment (document : EnrollmentDocument) : Except String ServerEnrollment := do
  let enrollment ← readServerEnrollment document
  validateLocalName enrollment.serverId "serverId"
  require (¬(enrollment.projectId = [] ∨ enrollment.identityFile = []))
    "WebTTY server enrollment is incomplete"
  require (enrollment.serverKeyAlgorithm = bytesFromString "webtty-x25519-hpke-v1")
    "unsupported WebTTY server key algorithm"
  let publicKey ← base64urlDecode enrollment.serverPublicKey 32 "WebTTY server public key"
  require (serverPublicKeyFingerprint prims publicKey = enrollment.serverFingerprint)
    "WebTTY server enrollment fingerprint does not match public key"
  checkSigningKey prims parsesPublicKey enrollment
  checkWorkspacePins enrollment
  .ok enrollment

def enrollmentRequiresE2e (enrollment : ServerEnrollment) : Bool :=
  enrollment.encryptionPolicy = explicitKey ∨ enrollment.encryptionPolicy = workspaceManaged

def validateIdentityMatchesEnrollment (identity : EndpointIdentity)
    (enrollment : ServerEnrollment) : Except String PUnit := do
  let mismatch := "WebTTY server identity does not match registered server enrollment"
  let publicKey ← base64urlDecode enrollment.serverPublicKey 32 "WebTTY server public key"
  require (identity.encryption.publicKey = publicKey ∧
    serverPublicKeyFingerprint prims identity.encryption.publicKey =
      enrollment.serverFingerprint) mismatch
  require (enrollment.serverSigningKeyId ≠ [] ∨ enrollment.serverSigningPublicKey ≠ []) mismatch
  let keyId ← base64urlDecode enrollment.serverSigningKeyId 32 "WebTTY server signing key id"
  let signingKey ←
    base64urlDecode enrollment.serverSigningPublicKey 0 "WebTTY server signing public key"
  require (identity.signing.keyId = keyId ∧ identity.signing.publicKey = signingKey) mismatch

end Source

/-! ## Accepted enrollments -/

section

variable {prims : Primitives} {parsesPublicKey : Bytes → Bool}

/-- **The pins of a workspace-managed server.** They are there, and the trust key can be read. -/
theorem pins_of_loadServerEnrollment {document : EnrollmentDocument}
    {enrollment : ServerEnrollment}
    (loaded : loadServerEnrollment prims parsesPublicKey document = .ok enrollment)
    (managed : enrollment.encryptionPolicy = workspaceManaged) :
    enrollment.workspaceId ≠ [] ∧ enrollment.workspaceTrustKeysetId ≠ [] ∧
      enrollment.workspaceTrustKeysetFingerprint ≠ [] ∧
        ∃ trustKey, base64urlDecode enrollment.workspaceTrustPublicSigningKey 0
          "workspace-managed WebTTY keyset public signing key" = .ok trustKey := by
  simp only [loadServerEnrollment, bind_eq_ok] at loaded
  obtain ⟨read, -, _, -, _, -, _, -, _, -, _, -, _, -, _, pins, same⟩ := loaded
  obtain rfl := Except.ok.inj same
  simp only [checkWorkspacePins, if_pos managed, bind_eq_ok, require_eq_ok] at pins
  obtain ⟨_, present, _, -, trustKey, decoded, -⟩ := pins
  simp only [not_or] at present
  exact ⟨present.1, present.2.1, present.2.2.1, trustKey, decoded⟩

end

end Rstream.Webtty.Cli
