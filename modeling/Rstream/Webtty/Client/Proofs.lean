import Rstream.Webtty.Client.Types
import Rstream.Webtty.Server.ClientProof

/-!
# The proofs that a client checks and makes

A client with an expected identity accepts a `ServerHello` only if it names that identity
and carries a signature of its key over the transcript of the hello. If the server requires
it, the `Open` of the client carries a signature over a transcript of its own, which is
valid for half a minute.
-/

namespace Rstream.Webtty.Client

open IoRstrm (ErrorCode)
open Server (ClientProof EndpointIdentityPublic Open ProofPrimitives parseRfc3339Utc seconds
  transportString wrap64)

section

variable (prims : ProofPrimitives) (settings : Settings) (world : World)

/-! ## The proof of the server -/

/-- The transcript that the proof in a hello has to sign, for the identity in the hello. -/
def serverProofTranscript (hello : ServerHello) (actual : EndpointIdentityPublic) :
    ServerProofTranscript where
  transport := transportString settings.protocolType
  workspaceId := hello.workspaceId.getD []
  projectId := hello.projectId.getD []
  serverId := hello.serverId.getD []
  sessionId := hello.sessionId
  serverSigningKeyId := actual.signingKeyId
  serverEncryptionKeyId := actual.encryptionKeyId
  serverNonce := hello.sessionNonce
  authRequirement := if hello.authRequirement = .clientProof then .clientProof else .none
  payloadSuites := hello.payloadSuites
  keyEnvelopeSuites := hello.keyEnvelopeSuites
  signatureSuites := hello.signatureSuites

def verifyServerHello (hello : ServerHello) : ErrorCode :=
  match settings.expectedServerIdentity with
  | none => .none
  | some expected =>
    match hello.serverIdentity, hello.serverProof with
    | some actual, some proof =>
      if actual ≠ expected then Error.Code.serverEndpointIdentityMismatch
      else
        let transcript := serverProofTranscript settings hello actual
        let (expectedHash, errorCode) :=
          hashWebttyServerProofTranscript prims.sha256 transcript .none
        if errorCode.failed then errorCode
        else if expectedHash ≠ proof.transcriptHash then Error.Code.serverProofInvalid
        else if (prims.verifyDigestSignature expected.signingPublicKey expectedHash
            proof.signature).failed then
          Error.Code.serverProofInvalid
        else .none
    | _, _ => Error.Code.serverProofInvalid

/-! ## Times -/

/-- `std::tm` of a time in UTC. -/
structure Tm where
  year : Int
  month : Nat
  day : Nat
  hour : Nat
  minute : Nat
  second : Nat
  deriving DecidableEq, Repr

/-- The days of a cycle of 400 years that begins in March, as a year of the cycle and a day of
that year. -/
def yearOfEra (doe : Nat) : Nat × Nat :=
  let century := min (doe / 36524) 3
  let doc := doe - century * 36524
  let quad := doc / 1461
  let doq := doc - quad * 1461
  let year := min (doq / 365) 3
  (century * 100 + quad * 4 + year, doq - year * 365)

/-- `gmtime_r`. -/
def gmtime (time : Int) : Tm :=
  let days := time / 86400 + 719468
  let secondOfDay := (time % 86400).toNat
  let (yoe, doy) := yearOfEra (days % 146097).toNat
  let mp := (5 * doy + 2) / 153
  let month := if mp < 10 then mp + 3 else mp - 9
  { year := days / 146097 * 400 + yoe + if month ≤ 2 then 1 else 0
    month
    day := doy - (153 * mp + 2) / 5 + 1
    hour := secondOfDay / 3600
    minute := secondOfDay / 60 % 60
    second := secondOfDay % 60 }

/-- A number in decimal, with at least as many digits as the given width. -/
def decimal : (width value : Nat) → Bytes
  | 0, value => if value = 0 then [] else bytesFromString (toString value)
  | width + 1, value => decimal width (value / 10) ++ [UInt8.ofNat (48 + value % 10)]

/-- `std::strftime` with the format `%Y-%m-%dT%H:%M:%SZ`. -/
def strftime (tm : Tm) : Bytes :=
  (if tm.year < 0 then bytesFromString "-" else []) ++ decimal 4 tm.year.natAbs ++
    bytesFromString "-" ++ decimal 2 tm.month ++ bytesFromString "-" ++ decimal 2 tm.day ++
    bytesFromString "T" ++ decimal 2 tm.hour ++ bytesFromString ":" ++ decimal 2 tm.minute ++
    bytesFromString ":" ++ decimal 2 tm.second ++ bytesFromString "Z"

def toTimeT (time : Int) : Int := time.tdiv 1000000000

def utcNowRfc3339 : Bytes := strftime (gmtime (toTimeT world.now.toInt))

def addSecondsRfc3339 (value : Bytes) (count : Int) : Bytes :=
  match parseRfc3339Utc value with
  | none => []
  | some parsed => strftime (gmtime (toTimeT (wrap64 (parsed + seconds count))))

/-! ## The proof of the client -/

/-- The transcript that the proof of the client signs. -/
def clientProofTranscript (open_ : Open) (hello : ServerHello) (actual : EndpointIdentityPublic)
    (clientSigningKeyId issuedAt expiresAt : Bytes) : Option ClientProofTranscript := do
  let sessionKeyGrantHash ← match open_.sessionKeyGrant with
    | some grant => (prims.serializeGrant grant).map prims.sha256
    | none => some (prims.sha256 [])
  let commandConfigHash ← match open_.config with
    | some config => (prims.serializeConfig config).map prims.sha256
    | none => some (prims.sha256 [])
  return {
    transport := transportString settings.protocolType
    workspaceId := hello.workspaceId.getD []
    projectId := hello.projectId.getD []
    serverId := hello.serverId.getD []
    sessionId := hello.sessionId
    serverSigningKeyId := actual.signingKeyId
    serverEncryptionKeyId := actual.encryptionKeyId
    serverNonce := hello.sessionNonce
    sessionKeyGrantHash
    commandConfigHash
    attachGrantHash := []
    requestedRole := []
    clientPrincipalId := settings.clientPrincipalId
    clientSigningKeyId
    clientCredentialHash := prims.sha256 settings.clientCredential
    issuedAt
    expiresAt }

/-- An optional field that is set unless it is empty. -/
def unlessEmpty (value : Bytes) : Option Bytes := if value.isEmpty then none else some value

def addClientProof (open_ : Open) (hello : ServerHello) : Except ErrorCode Open :=
  if hello.authRequirement ≠ .clientProof then .ok open_
  else match settings.endpointIdentity, hello.serverIdentity with
    | none, _ => .error Error.Code.clientIdentityRequired
    | some _, none => .error Error.Code.serverProofInvalid
    | some identity, some actual =>
      let issuedAt := utcNowRfc3339 world
      let expiresAt := addSecondsRfc3339 issuedAt 30
      match clientProofTranscript prims settings open_ hello actual identity.signing.keyId issuedAt
          expiresAt with
      | none => .error Error.Code.protocolError
      | some transcript =>
        let (transcriptHash, errorCode) :=
          hashWebttyClientProofTranscript prims.sha256 transcript .none
        if errorCode.failed then .error errorCode
        else
          let (signature, errorCode) :=
            world.signDigest identity.signing.privateKey transcriptHash
          if errorCode.failed then .error errorCode
          else .ok { open_ with
            clientProof := some {
              principalId := unlessEmpty settings.clientPrincipalId
              signingKeyId := identity.signing.keyId
              signingPublicKey := identity.signing.publicKey
              transcriptHash
              signature
              issuedAt
              expiresAt
              credential := unlessEmpty settings.clientCredential } }

/-- The `Open` of `do_send_open`. -/
def openMessage (serverHello : Option ServerHello) : Except ErrorCode Open :=
  let config := settings.protocolConfig
  let config := match config.options.allocateTty, world.term with
    | true, some value =>
      { config with envVars := addEnvironmentVariable (bytesFromString "TERM") value config.envVars }
    | _, _ => config
  let open_ : Open := {
    config := some (convert config)
    sessionKeyGrant := settings.payloadCrypto.map (·.getSessionKeyGrant) }
  match serverHello with
  | none => .ok open_
  | some hello => addClientProof prims settings world open_ hello

end

end Rstream.Webtty.Client
