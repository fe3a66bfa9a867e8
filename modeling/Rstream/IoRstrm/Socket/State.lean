import Rstream.IoRstrm.Handshake

/-!
# The socket

`socket::impl` connects to the engine in three asynchronous steps: it resolves the
address of the server, connects to it and runs the stream handshake. `async_connect`
decides on the thread of the caller, under `m_mutex`, whether the operation is admitted;
everything else runs on a strand, one handler after the other. A handler takes the mutex
at most once and what it does before commutes with what a caller does under the mutex, so
calls are steps of their own between the handlers.

The state is what the functions read and write, the work that calls have dispatched to
the strand (`tasks`) and the steps that were started and have not completed (`inFlight`).
Several threads may dispatch, so the work runs in any order. A cancellation is the
invocation of the slot of a handler; a call without a handler returns at once, and a
transfer changes none of these members. `log` is the history of the run.
-/

namespace Rstream.IoRstrm

structure SettingsSocket where
  config : Config := {}
  deriving DecidableEq, Repr

inductive SocketType where
  | client | server
  deriving DecidableEq, Repr

/-- `socket::impl::state`. -/
inductive SocketState where
  | null | connecting | connected
  deriving DecidableEq, Repr

structure ConnectOp where
  cancelled : Bool := false
  completed : Bool := false
  started : Bool := false
  reserved : Bool := false
  initiationError : ErrorCode := .none
  terminalError : ErrorCode := .none
  deriving DecidableEq, Repr

/-- The asynchronous steps of a connect operation. -/
inductive ConnectStep where
  | resolveHost | connect | handshake
  deriving DecidableEq, Repr

/-- Work that a call dispatched to the strand. -/
inductive SocketWork where
  | asyncConnectInternal (type : SocketType) (endpoint : Endpoint) (op : Nat)
  | cancelConnect (op : Nat)
  | closeInternal
  deriving DecidableEq, Repr

/-- What a run of the socket leaves behind. -/
inductive SocketOutput where
  /-- A handshake is run over the transport. -/
  | handshake (op : Nat) (handshake : Handshake)
  /-- The transport is closed and the resolver is cancelled. -/
  | closeTransport
  /-- `close_internal` runs; the operation in `m_connect_op`. -/
  | closing (op : Option Nat)
  /-- `cancel_connect` runs. -/
  | cancelling (op : Nat)
  /-- The completion handler of a connect operation is invoked. -/
  | completed (op : Nat) (errorCode : ErrorCode)
  deriving DecidableEq, Repr

/-- `socket::impl`. -/
structure Socket where
  settings : SettingsSocket := {}
  state : SocketState := .null
  type : SocketType := .client
  endpoint : Endpoint := {}
  connectOp : Option Nat := none
  isStateNonNull : Bool := false
  remoteEndpoint : Option Endpoint := none
  ops : Nat → ConnectOp := fun _ => {}
  nextOp : Nat := 0
  tasks : List SocketWork := []
  inFlight : List (ConnectStep × Nat) := []
  log : List SocketOutput := []

namespace Socket

/-- Record an effect. -/
@[simps]
def emit (output : SocketOutput) (s : Socket) : Socket := { s with log := s.log ++ [output] }

/-- Change a connect operation. -/
@[simps]
def modifyOp (op : Nat) (f : ConnectOp → ConnectOp) (s : Socket) : Socket :=
  { s with ops := Function.update s.ops op (f (s.ops op)) }

/-- Start a step of an operation. -/
@[simps]
def start (step : ConnectStep) (op : Nat) (s : Socket) : Socket :=
  { s with
    ops := Function.update s.ops op { s.ops op with started := true }
    inFlight := s.inFlight ++ [(step, op)] }

/-! ## Calls -/

/-- `settings(const settings_socket&)`. -/
def setSettings (settings : SettingsSocket) (s : Socket) : Socket :=
  if s.isStateNonNull then s else { s with settings }

/-- Why `async_connect` does not admit an operation. -/
def initiationError (endpoint : Endpoint) (s : Socket) : ErrorCode :=
  if s.isStateNonNull then Error.Code.invalidState
  else if endpoint.serverAddressFromUriParam ∧ s.settings.config.noToken = false ∧
      s.settings.config.tokenFromUriParam = false then Error.Code.invalidConfiguration
  else if endpoint.idName.isNone then Error.Code.invalidEndpoint
  else .none

def asyncConnect (type : SocketType) (endpoint : Endpoint) (s : Socket) : Socket :=
  let initiationError := s.initiationError endpoint
  { s with
    isStateNonNull := s.isStateNonNull || !initiationError.failed
    ops := Function.update s.ops s.nextOp
      { reserved := !initiationError.failed, initiationError }
    nextOp := s.nextOp + 1
    tasks := s.tasks ++ [.asyncConnectInternal type endpoint s.nextOp] }

def close (s : Socket) : Socket := { s with tasks := s.tasks ++ [.closeInternal] }

/-- The slot of the handler of an operation is invoked. -/
def cancel (op : Nat) (s : Socket) : Socket :=
  let s := s.modifyOp op fun o => { o with cancelled := true }
  { s with tasks := s.tasks ++ [.cancelConnect op] }

/-! ## Completing and closing -/

def completeConnect (op : Nat) (errorCode : ErrorCode) (s : Socket) : Socket :=
  if (s.ops op).completed then s
  else
    let s := (s.modifyOp op fun o => { o with completed := true }).emit (.completed op errorCode)
    { s with connectOp := if s.connectOp = some op then none else s.connectOp }

def onClose (errorCode : ErrorCode) (s : Socket) : Socket :=
  let s :=
    match s.connectOp with
    | some op =>
      let connectError := if errorCode.failed then errorCode else .operationAborted
      if (s.ops op).started then s.modifyOp op fun o => { o with terminalError := connectError }
      else { s with state := .null }.completeConnect op connectError
    | none => { s with state := .null }
  { s with endpoint := {}, isStateNonNull := false, remoteEndpoint := none }.emit .closeTransport

def onError (errorCode : ErrorCode) (s : Socket) : Socket :=
  if errorCode.failed then s.onClose errorCode else s

def closeInternal (s : Socket) : Socket := if s.state ≠ .null then s.onClose .none else s

def releaseConnectReservation (op : Nat) (s : Socket) : Socket :=
  if (s.ops op).reserved = false ∨ s.state ≠ .null then s
  else if s.isStateNonNull then
    { s with isStateNonNull := false }.modifyOp op fun o => { o with reserved := false }
  else s

def cancelConnect (op : Nat) (s : Socket) : Socket :=
  if (s.ops op).cancelled = false ∨ (s.ops op).completed then s
  else if s.connectOp = some op then s.onClose .operationAborted
  else (s.releaseConnectReservation op).completeConnect op .operationAborted

/-! ## Connecting -/

/-- `do_resolve_host`, for the operation in `m_connect_op`. -/
def doResolveHost (op : Nat) (s : Socket) : Socket := s.start .resolveHost op

/-- `do_connect`, for the operation in `m_connect_op`. -/
def doConnect (op : Nat) (s : Socket) : Socket := s.start .connect op

/-- The handshake of the socket. -/
def makeHandshake (s : Socket) : Handshake where
  type := match s.type with
    | .client => .streamReq
    | .server => .proxyReq
  serverAddress := s.endpoint.serverAddress
  config := s.settings.config
  idName := s.endpoint.idName.getD ""
  token := s.endpoint.secret

/-- `do_handshake`, for the operation in `m_connect_op`. -/
def doHandshake (op : Nat) (s : Socket) : Socket :=
  (s.start .handshake op).emit (.handshake op s.makeHandshake)

/-- `on_started`, for the operation in `m_connect_op`. -/
def onStarted (op : Nat) (s : Socket) : Socket :=
  let endpoint := { s.endpoint with secret := none }
  { s with state := .connected, endpoint, remoteEndpoint := some endpoint }.completeConnect op .none

def asyncConnectInternal (type : SocketType) (endpoint : Endpoint) (op : Nat) (s : Socket) :
    Socket :=
  if (s.ops op).cancelled then
    (s.releaseConnectReservation op).completeConnect op .operationAborted
  else if (s.ops op).initiationError.failed then s.completeConnect op (s.ops op).initiationError
  else if (s.ops op).reserved = false ∨ s.state ≠ .null then
    s.completeConnect op Error.Code.invalidState
  else { s with type, endpoint, connectOp := some op, state := .connecting }.doResolveHost op

/-- What the completion handlers of the three steps have in common: the step is over, and the
rest is for an operation that is still to be connected. -/
def onStep (op : Nat) (proceed : Socket → Socket) (s : Socket) : Socket :=
  let s := s.modifyOp op fun o => { o with started := false }
  if (s.ops op).terminalError.failed then s.onError (s.ops op).terminalError
  else if s.state ≠ .connecting ∨ s.connectOp ≠ some op then s.completeConnect op .operationAborted
  else proceed s

def onDoResolveHost (op : Nat) (errorCode : ErrorCode) (resultsEmpty : Bool) : Socket → Socket :=
  onStep op fun s =>
    let cause := if errorCode.failed = false ∧ resultsEmpty then
      Error.Code.noValidEndpoint.toErrorCode else errorCode
    if cause.failed then s.onError cause else s.doConnect op

def onConnect (op : Nat) (errorCode : ErrorCode) : Socket → Socket :=
  onStep op fun s => if errorCode.failed then s.onError errorCode else s.doHandshake op

def onHandshake (op : Nat) (errorCode : ErrorCode) : Socket → Socket :=
  onStep op fun s => if errorCode.failed then s.onError errorCode else s.onStarted op

/-! ## Steps -/

/-- Dispatched work runs. -/
def perform (work : SocketWork) (s : Socket) : Socket :=
  match work with
  | .asyncConnectInternal type endpoint op => s.asyncConnectInternal type endpoint op
  | .cancelConnect op => (s.emit (.cancelling op)).cancelConnect op
  | .closeInternal => (s.emit (.closing s.connectOp)).closeInternal

/-- An event of the socket. -/
inductive Event where
  | settings (settings : SettingsSocket)
  | asyncConnect (type : SocketType) (endpoint : Endpoint)
  | close
  | cancel (op : Nat)
  | run (index : Nat)
  | resolved (op : Nat) (errorCode : ErrorCode) (resultsEmpty : Bool)
  | connected (op : Nat) (errorCode : ErrorCode)
  | handshook (op : Nat) (errorCode : ErrorCode)
  deriving DecidableEq, Repr

/-- The completion of a step that is in flight. -/
def deliver (step : ConnectStep) (op : Nat) (handler : Socket → Socket) (s : Socket) :
    Option Socket :=
  if (step, op) ∈ s.inFlight then
    some (handler { s with inFlight := s.inFlight.erase (step, op) })
  else none

/-- One step of the socket. -/
def step (s : Socket) : Event → Option Socket
  | .settings settings => some (s.setSettings settings)
  | .asyncConnect type endpoint => some (s.asyncConnect type endpoint)
  | .close => some s.close
  | .cancel op => if op < s.nextOp then some (s.cancel op) else none
  | .run index =>
    match s.tasks[index]? with
    | none => none
    | some work => some (({ s with tasks := s.tasks.eraseIdx index } : Socket).perform work)
  | .resolved op errorCode resultsEmpty =>
    s.deliver .resolveHost op (onDoResolveHost op errorCode resultsEmpty)
  | .connected op errorCode => s.deliver .connect op (onConnect op errorCode)
  | .handshook op errorCode => s.deliver .handshake op (onHandshake op errorCode)

end Socket

end Rstream.IoRstrm
