import Rstream.Webtty.AuthProof
import Rstream.Webtty.PayloadCrypto

/-!
# Messages, settings and surroundings of a server session

The messages of the protocol are as protobuf delivers them. A field of a message that
no function of a session reads is left out, and so is the text of an error, which is
the message of its code.

What a session asks of its surroundings within one step (the clock, the random source,
the callbacks of the settings, the accounts and processes of the system) is a `World`;
every step has its own, so that a callback may answer differently each time.
-/

namespace Rstream.Webtty.Server

open IoRstrm (ErrorCode)

inductive ProtocolType where
  | websocket | plain
  deriving DecidableEq, Repr

def transportString : ProtocolType → Bytes
  | .plain => bytesFromString "plain"
  | .websocket => bytesFromString "websocket"

inductive ExecutionMode where
  | spawn | login
  deriving DecidableEq, Repr

inductive Identifier where
  | id (value : UInt32)
  | name (value : Bytes)
  deriving DecidableEq, Repr

/-- `protocol::options` and the message `Options`. -/
structure Options where
  interactive : Bool := false
  allocateTty : Bool := false
  sendHeartbeat : Bool := false
  deriving DecidableEq, Repr

/-- The message `Config`. The oneof of a `Username` may be unset. -/
structure Config where
  options : Option Options := none
  cmdArgs : List Bytes := []
  envVars : List (Bytes × Bytes) := []
  workdir : Option Bytes := none
  username : Option (Option Identifier) := none
  deriving DecidableEq, Repr

structure ProtocolConfig where
  options : Options
  cmdArgs : List Bytes
  envVars : List (Bytes × Bytes)
  workdir : Option Bytes
  username : Option Identifier
  deriving DecidableEq, Repr

/-- `detail::convert` of a `Config`. A default identifier is the id 0. -/
def convert (src : Config) : ProtocolConfig where
  options := src.options.getD {}
  cmdArgs := src.cmdArgs
  envVars := src.envVars
  workdir := src.workdir
  username := src.username.map fun identifier => identifier.getD (.id 0)

structure ClientProof where
  principalId : Option Bytes := none
  signingKeyId : Bytes
  signingPublicKey : Bytes
  transcriptHash : Bytes
  signature : Bytes
  issuedAt : Bytes
  expiresAt : Bytes
  deviceId : Option Bytes := none
  browserId : Option Bytes := none
  credential : Option Bytes := none
  deriving DecidableEq, Repr

structure Open where
  config : Option Config := none
  sessionKeyGrant : Option SessionKeyGrant := none
  clientProof : Option ClientProof := none
  deriving DecidableEq

/-- `Data::Type`, an open enumeration. -/
inductive DataType where
  | stdIn | stdOut | stdErr
  | other (value : Int)
  deriving DecidableEq, Repr

/-- The oneof of `Data`. -/
inductive DataPayload where
  | notSet
  | data (bytes : Bytes)
  | eos
  | encryptedData (payload : EncryptedPayload)
  deriving DecidableEq

structure TerminalSize where
  row : UInt16
  col : UInt16
  xpixel : UInt16
  ypixel : UInt16
  deriving DecidableEq, Repr

structure SigningIdentity where
  keyId : Bytes
  publicKey : Bytes
  privateKey : Bytes
  deriving DecidableEq, Repr

structure EndpointIdentity where
  encryption : E2eIdentity
  signing : SigningIdentity
  deriving DecidableEq

structure EndpointIdentityPublic where
  encryptionKeyId : Bytes
  encryptionPublicKey : Bytes
  signingKeyId : Bytes
  signingPublicKey : Bytes
  deriving DecidableEq, Repr

def publicEndpointIdentity (identity : EndpointIdentity) : EndpointIdentityPublic where
  encryptionKeyId := identity.encryption.keyId
  encryptionPublicKey := identity.encryption.publicKey
  signingKeyId := identity.signing.keyId
  signingPublicKey := identity.signing.publicKey

structure ServerProof where
  signatureSuite : SignatureSuite
  signingKeyId : Bytes
  transcriptHash : Bytes
  signature : Bytes
  deriving DecidableEq

structure ServerHello where
  protocolVersion : ProtocolVersion
  sessionNonce : Bytes
  serverIdentity : EndpointIdentityPublic
  payloadSuites : List PayloadCipherSuite
  keyEnvelopeSuites : List KeyEnvelopeSuite
  signatureSuites : List SignatureSuite
  authRequirement : AuthRequirement
  workspaceId : Option Bytes
  projectId : Option Bytes
  serverId : Option Bytes
  sessionId : Bytes
  serverProof : ServerProof
  deriving DecidableEq

/-- `ProtocolErrorCode`, as far as the server sends it. -/
inductive ProtocolErrorCode where
  | unknownServer | serverKeyChanged | serverProofInvalid | clientProofRequired
  | clientProofInvalid | clientUnauthorized
  deriving DecidableEq, Repr

def toProtocolErrorCode : Error.Code → Option ProtocolErrorCode
  | .knownServerRequired => some .unknownServer
  | .serverEndpointIdentityMismatch => some .serverKeyChanged
  | .serverProofInvalid => some .serverProofInvalid
  | .clientProofRequired => some .clientProofRequired
  | .clientProofInvalid => some .clientProofInvalid
  | .clientUnauthorized => some .clientUnauthorized
  | _ => none

/-- The oneof of `Message`. -/
inductive Message where
  | notSet
  | open_ (value : Open)
  | ack
  | error (errorCode : ErrorCode)
  | close (returnCode : Int)
  | data (type : DataType) (payload : DataPayload)
  | parameter (terminalSize : Option TerminalSize)
  | heartbeat
  | attach
  | serverHello (value : ServerHello)
  | protocolError (code : ProtocolErrorCode) (errorCode : ErrorCode)
  | clientHello
  | terminate
  deriving DecidableEq

/-- `settings_server`, with what `m_sessions` gives a session: its id and its protocol. The
three callbacks are part of the `World`; here is whether they are installed. -/
structure Settings where
  timeoutStart : UInt32 := 0
  timeoutOpen : UInt32 := 0
  timeoutClose : UInt32 := 0
  timeoutHeartbeat : UInt32 := 0
  executionMode : ExecutionMode := .spawn
  defaultUsername : Option Identifier := none
  allowClientUser : Bool := false
  authToken : Option Bytes := none
  payloadCryptoResolver : Bool := false
  endpointIdentity : Option EndpointIdentity := none
  requireClientProof : Bool := false
  authorizedClientSigningKeys : List (Bytes × Bytes) := []
  authorizedClientSigningKeyResolver : Bool := false
  clientProofCredentialVerifier : Bool := false
  workspaceId : Bytes := []
  projectId : Bytes := []
  serverId : Bytes := []
  sessionId : Bytes := []
  protocolType : ProtocolType := .plain

structure UserInfo where
  name : Bytes := []
  shell : Bytes := []
  home : Bytes := []
  uid : UInt32 := 0
  gid : UInt32 := 0
  groups : List UInt32 := []
  deriving DecidableEq, Repr

inductive Backend where
  | tty | pipe
  deriving DecidableEq, Repr

/-- How a child process is launched. -/
structure Launch where
  backend : Backend
  exe : Bytes
  args : List Bytes
  envVars : List (Bytes × Bytes)
  userInfo : UserInfo
  workdir : Bytes
  deriving DecidableEq, Repr

/-- A call of a `std::function` that yields an optional key; `none` when it throws. -/
abbrev Callback := Option (Option Bytes)

/-- What does not change from step to step: OpenSSL, serialisation and signatures. -/
structure ProofPrimitives extends Primitives where
  /-- Deterministic serialisation, which fails for messages that are too large. -/
  serializeGrant : SessionKeyGrant → Option Bytes
  serializeConfig : Config → Option Bytes
  /-- `verify_digest_signature` of a public key, digest and signature. -/
  verifyDigestSignature : Bytes → Bytes → Bytes → ErrorCode

/-- The code of an exception. -/
abbrev Thrown := { errorCode : ErrorCode // errorCode.failed = true }

/-- What the surroundings answer within one step. -/
structure World where
  /-- `system_clock::now`, in nanoseconds since the epoch. -/
  now : Int := 0
  /-- `RAND_bytes` for the nonce of the session. -/
  serverNonce : Option Bytes := none
  /-- `RAND_bytes` for the nonce of a payload. -/
  payloadNonce : Option Bytes := none
  /-- `sign_digest` with a private key. -/
  signDigest : Bytes → Bytes → Bytes × ErrorCode := fun _ _ => ([], .none)
  credentialVerifier : Bytes → Bytes → Bytes → Callback := fun _ _ _ => some none
  signingKeyResolver : Bytes → Callback := fun _ => some none
  payloadCryptoResolver : SessionKeyGrant → Option PayloadCrypto × ErrorCode :=
    fun _ => (none, Error.Code.cryptoError)
  /-- `serialize_protobuf_message` succeeds. -/
  serializes : Message → Bool := fun _ => true
  getUserInfo : Option Identifier → UserInfo × ErrorCode := fun _ => ({}, .none)
  /-- `add_execution_environment`, which reads the environment of the server. -/
  executionEnvironment : List (Bytes × Bytes) → ExecutionMode → UserInfo → List (Bytes × Bytes) :=
    fun envVars _ _ => envVars
  /-- The path that the lookup of an executable in a directory ends with, empty when there is
  none, or the error that it throws. -/
  exePath : Bytes → Bytes → Except Thrown Bytes := fun exe _ => .ok exe
  /-- `detail::process::make_child`: the error that it throws. -/
  makeChild : Launch → Option Thrown := fun _ => none
  /-- `detail::process::request_termination`. -/
  requestTermination : ErrorCode := .none
  /-- `detail::process::recover_exit`, and the exit code of the child if it has exited. -/
  recoverExit : Bool × ErrorCode := (false, .none)
  exitCode : Int := 0
  setWindowSize : ErrorCode := .none

end Rstream.Webtty.Server
