import Rstream.IoRstrm.Error
import Rstream.Library.Fields

/-!
# Types of the WebTTY protocol

The enumerations of the wire are open: a peer may send any integer, and the source
casts it to the enumeration, so each enumeration has a value `other` for the
integers without a name.
-/

namespace Rstream.Webtty

open IoRstrm (ErrorCode)

/-- `byte_vector`, and `std::string` where it holds bytes. -/
abbrev Bytes := List UInt8

instance : LawfulBEq Bytes := inferInstance

namespace Error

inductive Code where
  | success | clientError | invalidState | cryptoError | notATty | operationAborted
  | operationTimeout | protocolError | serverError | e2eSessionKeyGrantRequired
  | knownServerRequired | serverEndpointIdentityMismatch | serverProofInvalid
  | clientIdentityRequired | clientProofRequired | clientProofInvalid | clientUnauthorized
  | managedAttachUnsupported | unsupportedExecutionMode | loginUserRequired
  | clientUserDisabled | unexpectedMessage | unknownUndefinedError | terminationUnsupported
  deriving DecidableEq, Repr

/-- The integer of a code. -/
def Code.toInt : Code → Int
  | .success => 0
  | .clientError => 1
  | .invalidState => 2
  | .cryptoError => 3
  | .notATty => 4
  | .operationAborted => 5
  | .operationTimeout => 6
  | .protocolError => 7
  | .serverError => 8
  | .e2eSessionKeyGrantRequired => 9
  | .knownServerRequired => 10
  | .serverEndpointIdentityMismatch => 11
  | .serverProofInvalid => 12
  | .clientIdentityRequired => 13
  | .clientProofRequired => 14
  | .clientProofInvalid => 15
  | .clientUnauthorized => 16
  | .managedAttachUnsupported => 17
  | .unsupportedExecutionMode => 18
  | .loginUserRequired => 19
  | .clientUserDisabled => 20
  | .unexpectedMessage => 21
  | .unknownUndefinedError => 22
  | .terminationUnsupported => 23

/-- `make_error_code`. -/
def Code.toErrorCode (code : Code) : ErrorCode :=
  ⟨code.toInt, .other "rstream::webtty::error::category"⟩

instance : Coe Code ErrorCode := ⟨Code.toErrorCode⟩

@[simp] theorem Code.failed_toErrorCode (code : Code) :
    code.toErrorCode.failed = decide (code ≠ .success) := by
  cases code <;> rfl

end Error

inductive PayloadCipherSuite where
  | unspecified | aes256Gcm | chacha20Poly1305
  | other (value : Int)
  deriving DecidableEq, Repr

inductive KeyEnvelopeSuite where
  | unspecified | hpkeX25519HkdfSha256Aes256Gcm | hpkeX25519HkdfSha256Chacha20Poly1305
  | other (value : Int)
  deriving DecidableEq, Repr

inductive SignatureSuite where
  | ecdsaP256Sha256
  | other (value : Int)
  deriving DecidableEq, Repr

inductive ProtocolVersion where
  | webtty1
  | other (value : Int)
  deriving DecidableEq, Repr

inductive AuthRequirement where
  | none | clientProof
  | other (value : Int)
  deriving DecidableEq, Repr

/-- `payload_suite_code`: the number of a suite in what is signed or authenticated. -/
def payloadSuiteCode (suite : PayloadCipherSuite) (errorCode : ErrorCode) : Nat × ErrorCode :=
  match suite with
  | .aes256Gcm => (1, errorCode)
  | .chacha20Poly1305 => (2, errorCode)
  | .unspecified | .other _ => (0, Error.Code.cryptoError)

def keyEnvelopeSuiteCode (suite : KeyEnvelopeSuite) (errorCode : ErrorCode) : Nat × ErrorCode :=
  match suite with
  | .hpkeX25519HkdfSha256Aes256Gcm => (1, errorCode)
  | .hpkeX25519HkdfSha256Chacha20Poly1305 => (2, errorCode)
  | .unspecified | .other _ => (0, Error.Code.cryptoError)

def signatureSuiteCode (suite : SignatureSuite) (errorCode : ErrorCode) : Nat × ErrorCode :=
  match suite with
  | .ecdsaP256Sha256 => (1, errorCode)
  | .other _ => (0, Error.Code.cryptoError)

def protocolVersionCode (version : ProtocolVersion) (errorCode : ErrorCode) : Nat × ErrorCode :=
  match version with
  | .webtty1 => (1, errorCode)
  | .other _ => (0, Error.Code.protocolError)

def authRequirementCode (requirement : AuthRequirement) (errorCode : ErrorCode) :
    Nat × ErrorCode :=
  match requirement with
  | .none => (1, errorCode)
  | .clientProof => (2, errorCode)
  | .other _ => (0, Error.Code.protocolError)

/-- `length_prefixed`: the length is cast to 32 bits. -/
def lengthPrefixed (value : Bytes) : Bytes := Library.word32 value.length ++ value

/-- `std::string` literals of the source, as bytes. -/
def bytesFromString (value : String) : Bytes := value.toList.map fun c => UInt8.ofNat c.toNat

/-- A literal, as the list of its characters: evaluating `String.toList` is slow. -/
theorem bytesFromString_ofList (chars : List Char) :
    bytesFromString (String.ofList chars) = chars.map fun c => UInt8.ofNat c.toNat := by
  rw [bytesFromString, String.toList_ofList]

end Rstream.Webtty
