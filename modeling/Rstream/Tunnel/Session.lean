import Mathlib.Logic.Function.Basic
import Rstream.Core.Buffer
import Rstream.Library.Runs

/-!
# A session of the tunnel proxy

`proxy::impl::session` forwards bytes between a downstream socket, which the acceptor of
the proxy handed over, and an upstream socket, which it connects itself. Each side has a
buffer that the socket of the side is read into and that the socket of the other side is
written from.

All functions run on the strand of the session, so a state is its members together with
the operations whose handlers have not run yet. A state timer is disarmed by the next
change of the state; only armed timers are counted. The fields from `received` on are the
history of the run, no function reads them.
-/

namespace Rstream.Tunnel

open IoRstrm Core

namespace Error

inductive Code where
  | success | invalidState | noValidEndpoint | operationAborted | operationTimeout
  deriving DecidableEq, Repr

/-- The integer of a code. -/
def Code.toInt : Code → Int
  | .success => 0
  | .invalidState => 1
  | .noValidEndpoint => 2
  | .operationAborted => 3
  | .operationTimeout => 4

/-- `make_error_code`. -/
def Code.toErrorCode (code : Code) : ErrorCode :=
  ⟨code.toInt, .other "rstream::tunnel::error::category"⟩

instance : Coe Code ErrorCode := ⟨Code.toErrorCode⟩

end Error

/-- `boost::asio::error::eof`. -/
def endOfFile : ErrorCode := ⟨2, .other "asio.misc"⟩

/-- `session::type`. -/
inductive Side where
  | downstream | upstream
  deriving DecidableEq, Repr

/-- The side that the bytes of a side go to. -/
def Side.other : Side → Side
  | .downstream => .upstream
  | .upstream => .downstream

@[simp] theorem Side.other_other (side : Side) : side.other.other = side := by
  cases side <;> rfl

theorem Side.eq_or_eq_other (side known : Side) : side = known ∨ side = known.other := by
  cases side <;> cases known <;> simp [Side.other]

theorem Side.other_ne (side : Side) : side.other ≠ side := by
  cases side <;> nofun

inductive SessionState where
  | null | connecting | connected | disconnected
  deriving DecidableEq, Repr

/-- `settings_proxy`: the sizes of the two buffers, and the timeout for opening. -/
structure SettingsProxy where
  readBufferSizeBytes : Side → UInt32
  timeoutOpen : UInt32

/-- `proxy::impl::session`, and what is in flight around it. -/
structure Session where
  state : SessionState := .null
  handler : Bool := false
  errorCode : ErrorCode := .none
  /-- `m_buffer_read_downstream` and `m_buffer_read_upstream`. -/
  bufferRead : Side → Option Memory := fun _ => none
  /-- The sockets that were closed. -/
  closed : Side → Bool := fun _ => false
  timers : Nat := 0
  resolves : Nat := 0
  connects : Nat := 0
  /-- The sockets with a read in flight, into the buffer of their side. -/
  reads : List Side := []
  /-- The sockets with a write in flight, and the bytes that the write was given. -/
  writes : List (Side × List UInt8) := []
  /-- The bytes that the reads of a socket returned. -/
  received : Side → List UInt8 := fun _ => []
  /-- The bytes handed to the writes of a socket. -/
  forwarded : Side → List UInt8 := fun _ => []
  /-- The bytes of the writes of a socket that completed. -/
  written : Side → List UInt8 := fun _ => []
  /-- What the run handler was invoked with. -/
  completions : List ErrorCode := []
  /-- What the handlers of further runs were invoked with. -/
  refusals : List ErrorCode := []

namespace Session

def makeMemoryAllocated (size : UInt32) : Memory :=
  .whole (List.replicate size.toNat 0) (by
    rw [List.length_replicate]
    exact Nat.lt_trans size.toNat_lt (by decide))

/-- The bytes that a read puts at the start of a window. -/
def fill (memory : Memory) (bytes : List UInt8) (fits : bytes.length ≤ memory.size) : Memory :=
  memory.write (bytes ++ memory.bytes.drop bytes.length) (by
    rw [List.length_append, List.length_drop, memory.length_bytes]
    omega)

def setState (state : SessionState) (s : Session) : Session := { s with state, timers := 0 }

def armStateTimer (timeout : UInt32) (s : Session) : Session :=
  if timeout = 0 then s else { s with timers := s.timers + 1 }

def onClose (errorCode : ErrorCode) (s : Session) : Session :=
  if s.state = .null ∨ s.state = .disconnected then s
  else
    let cause := if s.errorCode.failed then s.errorCode else errorCode
    let s := { s.setState .disconnected with closed := fun _ => true }
    { s with
      completions := if s.handler then s.completions ++ [cause] else s.completions
      handler := false
      bufferRead := fun _ => none }

def onError (errorCode : ErrorCode) (s : Session) : Session :=
  if errorCode.failed then s.onClose errorCode else s

def doClose (errorCode : ErrorCode) (s : Session) : Session :=
  if s.state ≠ .connected ∨ errorCode.failed = false then s else s.onClose errorCode

def cancelInternal (errorCode : ErrorCode) (s : Session) : Session :=
  let cause := if errorCode.failed then errorCode else Error.Code.operationAborted.toErrorCode
  match s.state with
  | .connected => s.doClose cause
  | .connecting => s.onError cause
  | .null | .disconnected => s

/-- `do_read`. The buffer is there whenever the session is connected. -/
def doRead (side : Side) (s : Session) : Session :=
  { s with
    bufferRead := Function.update s.bufferRead side ((s.bufferRead side).map Memory.resetSize)
    reads := s.reads ++ [side] }

/-- `do_write`, from the buffer of the other side. -/
def doWrite (side : Side) (s : Session) : Session :=
  let bytes := ((s.bufferRead side.other).map Memory.bytes).getD []
  { s with
    writes := s.writes ++ [(side, bytes)]
    forwarded := Function.update s.forwarded side (s.forwarded side ++ bytes) }

/-- `buffer::set_size` of a buffer of one block; it throws when the block is smaller. -/
def setSize (side : Side) (size : Nat) (s : Session) : Session :=
  { s with
    bufferRead := Function.update s.bufferRead side ((s.bufferRead side).map fun memory =>
      match (Buffer.mk [memory]).setSize size with
      | .ok ⟨[resized]⟩ => resized
      | _ => memory) }

def onRead (errorCode : ErrorCode) (size : Nat) (side : Side) (s : Session) : Session :=
  if s.state ≠ .connected then s
  else if errorCode.failed then s.onError errorCode
  else (s.setSize side size).doWrite side.other

def onWrite (errorCode : ErrorCode) (side : Side) (s : Session) : Session :=
  if s.state ≠ .connected then s
  else if errorCode.failed then s.onError errorCode
  else s.doRead side.other

def runLoop (s : Session) : Session := (s.doRead .downstream).doRead .upstream

def onConnected (s : Session) : Session := (s.setState .connected).runLoop

def onOpen (errorCode : ErrorCode) (s : Session) : Session :=
  if s.state ≠ .connecting then s
  else if errorCode.failed then s.onError errorCode
  else s.onConnected

def doOpen (s : Session) : Session := { s with connects := s.connects + 1 }

/-- `on_do_resolve_host`, with the number of endpoints that were found. -/
def onDoResolveHost (errorCode : ErrorCode) (results : Nat) (s : Session) : Session :=
  if s.state ≠ .connecting then s
  else
    let cause := if errorCode.failed = false ∧ results = 0 then
      Error.Code.noValidEndpoint.toErrorCode else errorCode
    if cause.failed then s.onError cause else s.doOpen

def asyncRunInternal (settings : SettingsProxy) (s : Session) : Session :=
  if s.state ≠ .null then
    { s with refusals := s.refusals ++ [Error.Code.invalidState.toErrorCode] }
  else
    let s := { s with
      handler := true
      bufferRead := fun side => some (makeMemoryAllocated (settings.readBufferSizeBytes side)) }
    let s := (s.setState .connecting).armStateTimer settings.timeoutOpen
    { s with resolves := s.resolves + 1 }

end Session

/-- The handlers that run on the strand, with what they are given. A read that succeeds has
put its bytes into the buffer. -/
inductive Event where
  | run
  | cancel
  | timer
  | resolved (errorCode : ErrorCode) (results : Nat)
  | opened (errorCode : ErrorCode)
  | read (index : Nat) (result : Except ErrorCode (List UInt8))
  | written (index : Nat) (errorCode : ErrorCode)
  deriving DecidableEq

namespace Session

/-- The socket of a side fills the buffer of the side. The read was given the whole window,
so it returns no more than that. -/
def readInto (side : Side) (bytes : List UInt8) (s : Session) : Option Session :=
  match s.bufferRead side with
  | none => some s
  | some memory =>
    if fits : bytes.length ≤ memory.size then
      some { s with bufferRead :=
        Function.update s.bufferRead side (some (fill memory bytes fits)) }
    else none

/-- A read of a socket completes. -/
def readCompleted (side : Side) (result : Except ErrorCode (List UInt8)) (s : Session) :
    Option Session :=
  match result with
  | .error errorCode => if errorCode.failed then some (s.onRead errorCode 0 side) else none
  | .ok bytes =>
    ({ s with received := Function.update s.received side (s.received side ++ bytes) }.readInto
      side bytes).map (onRead .none bytes.length side)

/-- A write of a socket completes. -/
def writeCompleted (side : Side) (bytes : List UInt8) (errorCode : ErrorCode) (s : Session) :
    Session :=
  let s := if errorCode.failed then s
    else { s with written := Function.update s.written side (s.written side ++ bytes) }
  s.onWrite errorCode side

/-- A step of a session: a handler whose operation is in flight runs. -/
def step (settings : SettingsProxy) (s : Session) : Event → Option Session
  | .run => some (s.asyncRunInternal settings)
  | .cancel => some (s.cancelInternal Error.Code.operationAborted)
  | .timer =>
    if s.timers = 0 then none
    else some ({ s with timers := s.timers - 1 }.cancelInternal Error.Code.operationTimeout)
  | .resolved errorCode results =>
    if s.resolves = 0 then none
    else some ({ s with resolves := s.resolves - 1 }.onDoResolveHost errorCode results)
  | .opened errorCode =>
    if s.connects = 0 then none
    else some ({ s with connects := s.connects - 1 }.onOpen errorCode)
  | .read index result =>
    match s.reads[index]? with
    | none => none
    | some side => { s with reads := s.reads.eraseIdx index }.readCompleted side result
  | .written index errorCode =>
    match s.writes[index]? with
    | none => none
    | some (side, bytes) =>
      some ({ s with writes := s.writes.eraseIdx index }.writeCompleted side bytes errorCode)

end Session

end Rstream.Tunnel
