import Mathlib.Data.Int.Notation

/-!
# Error codes

`boost::system::error_code` is an integer with a category, and its truth value
is whether the integer differs from zero. Every branch of the library that asks
whether an operation failed asks this question, also where the integer came
from a peer (`makeErrorCode`).
-/

namespace Rstream.IoRstrm

/-- The error categories that reach this library. -/
inductive Category where
  /-- The operating system and Asio. -/
  | system
  /-- `rstream::io_rstrm::error::category`. -/
  | ioRstrm
  /-- Any other category, by its name. -/
  | other (name : String)
  deriving DecidableEq, Repr

structure ErrorCode where
  value : Int
  category : Category
  deriving DecidableEq, Repr

namespace ErrorCode

/-- The default-constructed error code. -/
def none : ErrorCode := ⟨0, .system⟩

/-- The truth value of an error code. -/
def failed (code : ErrorCode) : Bool := code.value != 0

@[simp] theorem failed_none : none.failed = false := rfl

theorem failed_iff (code : ErrorCode) : code.failed = true ↔ code.value ≠ 0 := by
  simp [failed]

def operationAborted : ErrorCode := ⟨125, .system⟩

@[simp] theorem failed_operationAborted : operationAborted.failed = true := rfl

/-- `first ? first : second`. -/
def orElse (first second : ErrorCode) : ErrorCode := if first.failed then first else second

theorem failed_orElse (first second : ErrorCode) :
    (first.orElse second).failed = (first.failed || second.failed) := by
  unfold orElse
  cases h : first.failed <;> simp [h]

end ErrorCode

namespace Error

inductive Code where
  | success
  | invalidConfiguration | invalidEndpoint | invalidState | noValidEndpoint
  | operationAborted | operationInProgress | operationTimeout | protocolError
  | serverError | streamNotFound | authenticationConflict | unsupportedMtlsExec
  | unauthorized | invalidRequest | protocolVersionMissing | protocolVersionInvalid
  | protocolVersionIncompatible | tunnelNotFound | invalidStream | featureNotAvailable
  | serviceUnavailable | capacityExhausted | internal
  deriving DecidableEq, Repr

/-- The integer of a code. -/
def Code.toInt : Code → Int
  | .success => 0
  | .invalidConfiguration => 1
  | .invalidEndpoint => 2
  | .invalidState => 3
  | .noValidEndpoint => 4
  | .operationAborted => 5
  | .operationInProgress => 6
  | .operationTimeout => 7
  | .protocolError => 8
  | .serverError => 9
  | .streamNotFound => 10
  | .authenticationConflict => 11
  | .unsupportedMtlsExec => 12
  | .unauthorized => 1000
  | .invalidRequest => 2000
  | .protocolVersionMissing => 2010
  | .protocolVersionInvalid => 2020
  | .protocolVersionIncompatible => 2030
  | .tunnelNotFound => 3000
  | .invalidStream => 4000
  | .featureNotAvailable => 5000
  | .serviceUnavailable => 6000
  | .capacityExhausted => 7000
  | .internal => 9000

/-- `make_error_code(int)`: the integer is taken as it is. -/
def makeErrorCode (code : Int) : ErrorCode := ⟨code, .ioRstrm⟩

/-- The error code of one of the library's own codes. -/
def Code.toErrorCode (code : Code) : ErrorCode := makeErrorCode code.toInt

instance : Coe Code ErrorCode := ⟨Code.toErrorCode⟩

theorem failed_makeErrorCode (code : Int) : (makeErrorCode code).failed = true ↔ code ≠ 0 :=
  ErrorCode.failed_iff _

/-- Only `success` is not a failure. -/
@[simp] theorem Code.failed_toErrorCode (code : Code) :
    code.toErrorCode.failed = decide (code ≠ .success) := by
  cases code <;> rfl

end Error

end Rstream.IoRstrm
