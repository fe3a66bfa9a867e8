import Rstream.Webtty.Server.Types

/-!
# Messages, settings and surroundings of a client

A client sends messages of the type that a server session reads. What it reads is
written by any peer, so the identity and the proof of a `ServerHello` may be missing.

As for a session, a `World` is what the surroundings answer within one step.
-/

namespace Rstream.Webtty.Client

open IoRstrm (ErrorCode)
open Server (Config DataPayload DataType EndpointIdentity EndpointIdentityPublic Identifier Message
  ProtocolConfig ProtocolErrorCode ProtocolType ServerProof TerminalSize)

/-- The message `ServerHello`, as far as the client reads it. -/
structure ServerHello where
  sessionNonce : Bytes := []
  serverIdentity : Option EndpointIdentityPublic := none
  payloadSuites : List PayloadCipherSuite := []
  keyEnvelopeSuites : List KeyEnvelopeSuite := []
  signatureSuites : List SignatureSuite := []
  authRequirement : AuthRequirement := .none
  workspaceId : Option Bytes := none
  projectId : Option Bytes := none
  serverId : Option Bytes := none
  sessionId : Bytes := []
  serverProof : Option ServerProof := none
  deriving DecidableEq

/-- `SessionCapability`, an open enumeration. -/
inductive SessionCapability where
  | terminate
  | other (value : Int)
  deriving DecidableEq, Repr

/-- The oneof of a `Message` that the client reads. A code of a `ProtocolError` that has no
name is `none`, and `other` is a message without a payload or with one that a client never
expects. -/
inductive Incoming where
  | serverHello (value : ServerHello)
  | ack (capabilities : List SessionCapability)
  | error
  | protocolError (code : Option ProtocolErrorCode)
  | close (returnCode : Int)
  | data (type : DataType) (payload : DataPayload)
  | heartbeat
  | other
  deriving DecidableEq

def mapProtocolError : Option ProtocolErrorCode → Error.Code
  | some .unknownServer => .knownServerRequired
  | some .serverKeyChanged => .serverEndpointIdentityMismatch
  | some .serverProofInvalid => .serverProofInvalid
  | some .clientProofRequired => .clientProofRequired
  | some .clientProofInvalid => .clientProofInvalid
  | some .clientUnauthorized => .clientUnauthorized
  | none => .protocolError

/-- A `ProtocolError` always ends the client with an error. -/
theorem failed_mapProtocolError (code : Option ProtocolErrorCode) :
    (mapProtocolError code).toErrorCode.failed = true := by
  cases code with
  | none => rfl
  | some code => cases code <;> rfl

/-- `settings_client`, with the transport and the command of the configuration. -/
structure Settings where
  timeoutOpen : UInt32 := 0
  timeoutClose : UInt32 := 0
  timeoutHeartbeat : UInt32 := 0
  payloadCrypto : Option PayloadCrypto := none
  endpointIdentity : Option EndpointIdentity := none
  expectedServerIdentity : Option EndpointIdentityPublic := none
  clientCredential : Bytes := []
  clientPrincipalId : Bytes := []
  protocolType : ProtocolType := .plain
  protocolConfig : ProtocolConfig := ⟨{}, [], [], none, none⟩

/-- What the surroundings answer within one step. -/
structure World where
  /-- `system_clock::now`, in nanoseconds since the epoch. -/
  now : Int64 := 0
  /-- `get_environment_variable("TERM")`. -/
  term : Option Bytes := none
  /-- `RAND_bytes` for the nonce of a payload. -/
  payloadNonce : Option Bytes := none
  /-- `sign_digest` with a private key. -/
  signDigest : Bytes → Bytes → Bytes × ErrorCode := fun _ _ => ([], .none)
  /-- `serialize_protobuf_message` succeeds. -/
  serializes : Message → Bool := fun _ => true
  /-- `terminal::set_raw`. -/
  setRaw : ErrorCode := .none
  /-- `terminal::get_size`, and the error that it reports or throws. -/
  getSize : TerminalSize × ErrorCode := (⟨0, 0, 0, 0⟩, .none)

/-- `detail::convert` of a `protocol::config`. -/
def convert (src : ProtocolConfig) : Config where
  options := some src.options
  cmdArgs := src.cmdArgs
  envVars := src.envVars
  workdir := src.workdir
  username := src.username.map some

/-- The server reads back the configuration that the client converts. -/
theorem convert_convert (config : ProtocolConfig) : Server.convert (convert config) = config := by
  obtain ⟨options, cmdArgs, envVars, workdir, username⟩ := config
  cases username with
  | none | some identifier => rfl

/-- `add_environment_variable`, which keeps a variable that is there. -/
def addEnvironmentVariable (key value : Bytes) (dst : List (Bytes × Bytes)) :
    List (Bytes × Bytes) :=
  if dst.any (·.1 == key) then dst else dst ++ [(key, value)]

end Rstream.Webtty.Client
