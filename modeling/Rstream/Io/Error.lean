import Rstream.IoRstrm.Error

/-!
# Error codes of the transport layer

`rstream::io::error::code` and the category its values live in.
-/

namespace Rstream.Io.Error

open IoRstrm

inductive Code where
  | success | deserializationError | invalidBufferSize | operationCancelled
  | operationTimeout | unknownUndefinedError | invalidUri | unsupportedOperation
  deriving DecidableEq, Repr

/-- The integer of a code. -/
def Code.toInt : Code → Int
  | .success => 0
  | .deserializationError => 1
  | .invalidBufferSize => 2
  | .operationCancelled => 3
  | .operationTimeout => 4
  | .unknownUndefinedError => 5
  | .invalidUri => 6
  | .unsupportedOperation => 7

/-- `make_error_code`. -/
def Code.toErrorCode (code : Code) : ErrorCode :=
  ⟨code.toInt, .other "rstream::io::error::category"⟩

instance : Coe Code ErrorCode := ⟨Code.toErrorCode⟩

@[simp] theorem Code.failed_toErrorCode (code : Code) :
    code.toErrorCode.failed = decide (code ≠ .success) := by
  cases code <;> rfl

end Rstream.Io.Error
