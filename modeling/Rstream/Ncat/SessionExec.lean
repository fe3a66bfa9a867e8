import Mathlib.Logic.Function.Basic
import Rstream.IoRstrm.Error
import Rstream.Library.Runs

/-!
# A session of the ncat server that runs a command

`server::impl::session_exec` connects a downstream socket to the standard streams of a
child process. Three loops run on its strand: the socket is read and written to the
standard input of the child, and each of the two outputs of the child is read and written
to the socket. Each loop reads into a buffer of its own and writes from it.

The model keeps, next to the members of the session, the operations in flight and the
child: which ends of the pipes it holds, what is in the pipes, and the notification of its
exit. A write is a composed operation (`boost::asio::async_write`): it hands its bytes to
the socket piece by piece, so several of them may interleave. Reading an output ends with
an end of file only when the pipe is empty and the child has closed it.

The fields from `wrote` on are the history of the run, no function reads them.
-/

namespace Rstream.Ncat

open Function (update)
open IoRstrm

namespace Error

inductive Code where
  | success | invalidState | noValidEndpoint | operationAborted | operationTimeout
  deriving DecidableEq, Repr

/-- The integer of a code. -/
def Code.toInt : Code → Int
  | .success => 0
  | .invalidState => 1
  | .noValidEndpoint => 2
  | .operationAborted => 3
  | .operationTimeout => 4

/-- `make_error_code`. -/
def Code.toErrorCode (code : Code) : ErrorCode :=
  ⟨code.toInt, .other "rstream::ncat::error::category"⟩

instance : Coe Code ErrorCode := ⟨Code.toErrorCode⟩

end Error

def eof : ErrorCode := ⟨2, .other "asio.misc"⟩

def brokenPipe : ErrorCode := ⟨32, .system⟩

/-- `core::helpers::is_eof_error` on POSIX. -/
def isEofError (errorCode : ErrorCode) : Bool := errorCode.failed && errorCode == eof

inductive ChildStream where
  | stdOut | stdErr
  deriving DecidableEq, Repr

/-- `session_exec::state`. -/
inductive SessionState where
  | null | running | closing | closed
  deriving DecidableEq, Repr

/-- `server::impl::session_exec`, what is in flight around it, and the child. -/
structure SessionExec where
  /-- `m_settings.m_read_downstream_buffer_size_bytes`. -/
  readDownstreamBufferSizeBytes : Nat
  /-- `m_settings.m_read_upstream_buffer_size_bytes`. -/
  readUpstreamBufferSizeBytes : Nat
  downstreamHalfClose : Bool
  state : SessionState := .null
  handler : Bool := false
  errorCode : ErrorCode := .none
  /-- `m_child_stdout_eos` and `m_child_stderr_eos`. -/
  eos : ChildStream → Bool := fun _ => false
  stopReadDownstream : Bool := false
  /-- The visible bytes of `m_buffer_read_downstream`. -/
  bufferReadDownstream : List UInt8 := []
  /-- The visible bytes of `m_buffer_read_upstream` and `m_buffer_read_stderr`. -/
  bufferReadChild : ChildStream → List UInt8 := fun _ => []
  /-- `m_child_stdin` is open. -/
  stdinOpen : Bool := false
  /-- The reads of the socket in flight. -/
  readsDownstream : Nat := 0
  /-- The reads of the outputs of the child in flight. -/
  readsChild : ChildStream → Nat := fun _ => 0
  /-- The writes to the input of the child in flight, with their bytes. -/
  writesChild : List (List UInt8) := []
  /-- The writes to the socket in flight, with the bytes the socket has not taken yet. -/
  writesDownstream : List (ChildStream × List UInt8) := []
  /-- The child process runs. -/
  alive : Bool := false
  /-- The child holds the reading end of its input. -/
  stdinReader : Bool := false
  /-- The child holds the writing end of its outputs. -/
  outputs : ChildStream → Bool := fun _ => false
  /-- What is in the pipes of the outputs. -/
  pipes : ChildStream → List UInt8 := fun _ => []
  /-- Notifications of the exit of the child that wait for the strand. -/
  exits : List ErrorCode := []
  /-- The bytes the child wrote. -/
  wrote : ChildStream → List UInt8 := fun _ => []
  /-- The chunks given to the writes to the socket, in the order of the writes. -/
  chunks : List (ChildStream × List UInt8) := []
  /-- The bytes the socket took, with the stream each of them is of. -/
  received : List (ChildStream × UInt8) := []
  /-- What the run handler was invoked with. -/
  completions : List ErrorCode := []
  /-- What the handlers of further runs were invoked with. -/
  refusals : List ErrorCode := []

namespace SessionExec

/-- `on_close`; a child that still runs is terminated. -/
def onClose (errorCode : ErrorCode) (s : SessionExec) : SessionExec :=
  if s.state = .closed then s
  else
    let cause := if s.errorCode.failed then s.errorCode else errorCode
    { s with
      state := .closed
      stdinOpen := false
      exits := if s.alive then s.exits ++ [.none] else s.exits
      alive := false
      stdinReader := false
      outputs := fun _ => false
      completions := if s.handler then s.completions ++ [cause] else s.completions
      handler := false
      bufferReadDownstream := []
      bufferReadChild := fun _ => [] }

def doClose (errorCode : ErrorCode) (s : SessionExec) : SessionExec :=
  if s.state = .closing ∨ s.state = .closed then s
  else
    let s := if errorCode.failed ∧ ¬ s.errorCode.failed then { s with errorCode } else s
    onClose errorCode { s with state := .closing }

def onError (errorCode : ErrorCode) (s : SessionExec) : SessionExec :=
  if errorCode.failed then s.doClose errorCode else s

/-- `cancel_internal`, as `cancel` calls it. -/
def cancelInternal (s : SessionExec) : SessionExec :=
  if s.state = .null ∨ s.state = .closed then s else s.doClose Error.Code.operationAborted

def doReadDownstream (s : SessionExec) : SessionExec :=
  if s.state ≠ .running ∨ s.stopReadDownstream then s
  else { s with readsDownstream := s.readsDownstream + 1 }

def doWriteChild (s : SessionExec) : SessionExec :=
  if s.state ≠ .running ∨ s.stopReadDownstream then s
  else { s with writesChild := s.writesChild ++ [s.bufferReadDownstream] }

/-- `on_read_downstream`, with the bytes that were read. -/
def onReadDownstream (errorCode : ErrorCode) (bytes : List UInt8) (s : SessionExec) : SessionExec :=
  if s.state ≠ .running then s
  else if errorCode.failed then
    if isEofError errorCode then
      if ¬ s.downstreamHalfClose then s.onClose .none
      else
        let s := { s with stdinOpen := false }
        if s.eos .stdOut ∧ s.eos .stdErr then s.onClose .none else s
    else s.onError errorCode
  else if ¬ s.stopReadDownstream then doWriteChild { s with bufferReadDownstream := bytes }
  else s

def onWriteChild (errorCode : ErrorCode) (s : SessionExec) : SessionExec :=
  if s.state ≠ .running then s
  else if errorCode.failed then
    if isEofError errorCode then { s with stopReadDownstream := true } else s.onError errorCode
  else s.doReadDownstream

def doReadChild (stream : ChildStream) (s : SessionExec) : SessionExec :=
  if s.state ≠ .running then s
  else { s with readsChild := update s.readsChild stream (s.readsChild stream + 1) }

def doWriteDownstream (stream : ChildStream) (s : SessionExec) : SessionExec :=
  if s.state ≠ .running then s
  else
    { s with
      writesDownstream := s.writesDownstream ++ [(stream, s.bufferReadChild stream)]
      chunks := s.chunks ++ [(stream, s.bufferReadChild stream)] }

/-- `on_read_child`, with the bytes that were read. -/
def onReadChild (errorCode : ErrorCode) (bytes : List UInt8) (stream : ChildStream)
    (s : SessionExec) : SessionExec :=
  if s.state ≠ .running then s
  else if errorCode.failed then
    if isEofError errorCode then
      let s := { s with eos := update s.eos stream true }
      if s.eos .stdOut ∧ s.eos .stdErr then s.onClose .none else s
    else s.onError errorCode
  else
    doWriteDownstream stream
      { s with bufferReadChild := update s.bufferReadChild stream bytes }

def onWriteDownstream (errorCode : ErrorCode) (stream : ChildStream) (s : SessionExec) :
    SessionExec :=
  if s.state ≠ .running then s
  else if errorCode.failed then s.onError errorCode
  else s.doReadChild stream

def onChildExit (errorCode : ErrorCode) (s : SessionExec) : SessionExec :=
  if s.state ≠ .running then s
  else
    let s := if errorCode.failed ∧ ¬ s.errorCode.failed then { s with errorCode } else s
    { s with stopReadDownstream := true, stdinOpen := false }

def runLoop (s : SessionExec) : SessionExec :=
  ((s.doReadDownstream).doReadChild .stdOut).doReadChild .stdErr

/-- `async_run_internal` and `start_child`; `started` is the error of starting the child. -/
def asyncRunInternal (started : ErrorCode) (s : SessionExec) : SessionExec :=
  if s.state ≠ .null then
    { s with refusals := s.refusals ++ [Error.Code.invalidState.toErrorCode] }
  else
    let s := { s with handler := true, state := .running }
    if started.failed then s.onError started
    else
      runLoop { s with
        alive := true, stdinOpen := true, stdinReader := true, outputs := fun _ => true }

/-- What can happen to a session. -/
inductive Event where
  | asyncRun (started : ErrorCode)
  | cancel
  /-- The child writes to an output, closes one, closes its input, or exits. -/
  | childWrites (stream : ChildStream) (bytes : List UInt8)
  | childCloses (stream : ChildStream)
  | childClosesStdin
  | childExits (errorCode : ErrorCode)
  /-- The notification of the exit runs on the strand. -/
  | onChildExit
  | readDownstream (bytes : List UInt8)
  | readDownstreamFailed (errorCode : ErrorCode)
  | writeChild (write : Nat)
  | writeChildFailed (write : Nat) (errorCode : ErrorCode)
  | readChild (stream : ChildStream) (size : Nat)
  | readChildFailed (stream : ChildStream) (errorCode : ErrorCode)
  /-- The socket takes some bytes of a write. -/
  | writeDownstreamSome (write : Nat) (size : Nat)
  | writeDownstream (write : Nat)
  | writeDownstreamFailed (write : Nat) (errorCode : ErrorCode)

/-- One event. -/
def step (s : SessionExec) : Event → Option SessionExec
  | .asyncRun started => some (s.asyncRunInternal started)
  | .cancel => some s.cancelInternal
  | .childWrites stream bytes =>
    if s.alive ∧ s.outputs stream then
      some { s with
        pipes := update s.pipes stream (s.pipes stream ++ bytes)
        wrote := update s.wrote stream (s.wrote stream ++ bytes) }
    else none
  | .childCloses stream =>
    if s.alive then some { s with outputs := update s.outputs stream false } else none
  | .childClosesStdin => if s.alive then some { s with stdinReader := false } else none
  | .childExits errorCode =>
    if s.alive then
      some { s with
        alive := false
        stdinReader := false
        outputs := fun _ => false
        exits := s.exits ++ [errorCode] }
    else none
  | .onChildExit =>
    match s.exits with
    | [] => none
    | errorCode :: rest => some (onChildExit errorCode { s with exits := rest })
  | .readDownstream bytes =>
    if 0 < s.readsDownstream ∧ bytes.length ≤ s.readDownstreamBufferSizeBytes then
      some (onReadDownstream .none bytes { s with readsDownstream := s.readsDownstream - 1 })
    else none
  | .readDownstreamFailed errorCode =>
    if 0 < s.readsDownstream ∧ errorCode.failed then
      some (onReadDownstream errorCode [] { s with readsDownstream := s.readsDownstream - 1 })
    else none
  | .writeChild write =>
    if write < s.writesChild.length then
      some (onWriteChild .none { s with writesChild := s.writesChild.eraseIdx write })
    else none
  | .writeChildFailed write errorCode =>
    if write < s.writesChild.length ∧ errorCode.failed then
      some (onWriteChild errorCode { s with writesChild := s.writesChild.eraseIdx write })
    else none
  | .readChild stream size =>
    if 0 < s.readsChild stream ∧ size ≤ (s.pipes stream).length ∧
        size ≤ s.readUpstreamBufferSizeBytes then
      some (onReadChild .none ((s.pipes stream).take size) stream { s with
        readsChild := update s.readsChild stream (s.readsChild stream - 1)
        pipes := update s.pipes stream ((s.pipes stream).drop size) })
    else none
  | .readChildFailed stream errorCode =>
    if 0 < s.readsChild stream ∧ errorCode.failed ∧
        (isEofError errorCode → s.pipes stream = [] ∧ s.outputs stream = false) then
      some (onReadChild errorCode [] stream { s with
        readsChild := update s.readsChild stream (s.readsChild stream - 1) })
    else none
  | .writeDownstreamSome write size =>
    match s.writesDownstream[write]? with
    | none => none
    | some (stream, left) =>
      if s.state = .closed then none
      else
        some { s with
          writesDownstream := s.writesDownstream.set write (stream, left.drop size)
          received := s.received ++ (left.take size).map fun byte => (stream, byte) }
  | .writeDownstream write =>
    match s.writesDownstream[write]? with
    | some (stream, []) =>
      some (onWriteDownstream .none stream
        { s with writesDownstream := s.writesDownstream.eraseIdx write })
    | _ => none
  | .writeDownstreamFailed write errorCode =>
    match s.writesDownstream[write]? with
    | none => none
    | some (stream, _) =>
      if errorCode.failed then
        some (onWriteDownstream errorCode stream
          { s with writesDownstream := s.writesDownstream.eraseIdx write })
      else none

end SessionExec

end Rstream.Ncat
