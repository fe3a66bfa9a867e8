import Rstream.IoRstrm.Acceptor.State

/-!
# The acceptor: its handlers and steps

Each definition is the member function of `acceptor::impl` with the same name.
The acceptor learns three things while a handler runs that it does not decide:
which clients refuse `set_control_callbacks`, the random part of a generated
stable domain, and the calls that the user's callbacks make. These calls are
dispatched to the strand they already run on, so they run at once.

A step is a call from outside, the run of dispatched work, the expiry of the
timer, its callback, the completion of a request, or a notification of a client.
-/

namespace Rstream.IoRstrm

/-- What a handler of the acceptor obtains while it runs. -/
structure AcceptorOracle where
  refuses : Nat → Bool := fun _ => false
  stableDomain : Option String := none

/-- The calls of the acceptor's interface that change it. `cancel` is the emission
of the cancellation signal bound to an accept operation. -/
inductive AcceptorCall where
  | setControlCallbacks (callbacks : AcceptorCallbacks)
  | settings (settings : SettingsAcceptor)
  | bind (endpoint : Endpoint)
  | asyncAccept (peer : PeerId)
  | close
  | cancel (op : Nat)

def formatForwardingAddress (properties : TunnelProperties) : Option String :=
  if properties.hostname.isSome ∨ properties.host.isSome then
    let https := properties.protocol = some "http" ∨ properties.protocol = some "webtty"
    let edge := if https then "https" else properties.protocol.getD "tls"
    let scheme := if https then "https://" else ""
    let name := match properties.hostname with
      | some hostname =>
        match properties.port with
        | some port =>
          if edge ≠ "https" ∨ port ≠ 443 then hostname ++ ":" ++ toString port else hostname
        | none => hostname
      | none => properties.host.getD ""
    let mark := if properties.protocol = some "webtty" then " (webtty)"
      else if edge ≠ "https" then " (" ++ edge ++ ")" else ""
    some (scheme ++ name ++ mark)
  else
    (properties.name.or properties.id).map fun name => "rstrm://" ++ name ++ " (unpublished)"

/-- `maybe_set_generated_stable_domain`: the properties, and what
`m_generated_stable_domain` holds afterwards. -/
def maybeSetGeneratedStableDomain (properties : TunnelProperties) (stableDomain : Option String)
    (generated : Option String) : TunnelProperties × Option String :=
  if properties.hostname.isSome ∨ properties.host.isSome then (properties, generated)
  else if properties.publish ≠ some true then (properties, generated)
  else if properties.protocol = some "tcp" then (properties, generated)
  else
    let generated := generated.or stableDomain
    ({ properties with hostname := generated.or properties.hostname }, generated)

namespace Acceptor

/-! ## Completing and closing -/

def completeAccept (s : Acceptor) (op : Nat) (errorCode : ErrorCode) : Acceptor :=
  if (s.ops op).completed then s
  else (s.modifyOp op fun o => { o with completed := true }).emit (.completed op errorCode)

def releaseAcceptReservation (s : Acceptor) (op : Nat) : Acceptor :=
  if ¬(s.ops op).reserved ∨ s.state ≠ .null then s
  else if s.startPending then
    { s.modifyOp op (fun o => { o with reserved := false }) with
      startPending := false, isStateNonNull := false }
  else s

/-- `m_client->close()`. -/
def closeClient (s : Acceptor) : Acceptor :=
  match s.client with
  | none => s.emit .fault
  | some client => s.emit (.closeClient client)

/-- The completion of the pending accept operation in `on_close`. -/
def dropAccept (s : Acceptor) (errorCode : ErrorCode) : Acceptor :=
  match s.acceptOp with
  | none => s
  | some op =>
    { s.completeAccept op (errorCode.orElse Error.Code.operationAborted) with acceptOp := none }

def onClose (s : Acceptor) (errorCode : ErrorCode) : Acceptor :=
  if s.state = .null then s
  else
    let s := ({ s with state := .null, closing := false, tunnel := none, status := {} } :
      Acceptor).cancelTimer.closeClient
    (({ s with
      client := none, localEndpoint := none, isStateNonNull := false, startPending := false
      controlCallbacks := {} } : Acceptor).emit (.closed errorCode)).dropAccept errorCode

def onError (s : Acceptor) (errorCode : ErrorCode) : Acceptor :=
  if errorCode.failed then s.onClose errorCode else s

def closeInternal (s : Acceptor) : Acceptor :=
  if s.state = .null then { s with closing := false }
  else if s.state = .idle then s.onClose .none
  else s.closeClient

/-! ## Connecting, creating and accepting -/

def doConnect (s : Acceptor) (oracle : AcceptorOracle) : Acceptor :=
  if s.state ≠ .idle then s
  else
    let s := { s with state := .connecting }
    match s.client with
    | none => s.emit .fault
    | some client =>
      if oracle.refuses client then s.onError Error.Code.invalidState
      else ({ s with connection := s.connection + 1 } : Acceptor).ask client .connect
        (.connect client s.endpoint.serverAddress)

def doReconnect (s : Acceptor) : Acceptor := if s.state ≠ .idle then s else s.armTimer

/-- The properties `do_create_tunnel` asks for. -/
def requestedProperties (s : Acceptor) (oracle : AcceptorOracle) :
    TunnelProperties × Option String :=
  let properties := s.settings.tunnelProperties
  maybeSetGeneratedStableDomain { properties with name := s.endpoint.idName.or properties.name }
    oracle.stableDomain s.generatedStableDomain

def doCreateTunnel (s : Acceptor) (oracle : AcceptorOracle) : Acceptor :=
  if s.state ≠ .connected ∨ s.closing then s
  else
    match s.client with
    | none => s.emit .fault
    | some client =>
      let (properties, generated) := s.requestedProperties oracle
      ({ s with generatedStableDomain := generated } : Acceptor).ask client .create
        (.createTunnel client properties s.connection s.tunnel s.outstandingCreates)

def doRecreateTunnel (s : Acceptor) : Acceptor :=
  if s.state ≠ .connected ∨ s.closing then s else s.armTimer

def doAccept (s : Acceptor) : Acceptor :=
  match s.acceptOp with
  | none => s
  | some op =>
    if s.state ≠ .connected ∨ s.closing ∨ (s.ops op).completed ∨ (s.ops op).accepting then s
    else
      match s.tunnel with
      | none => s.emit .fault
      | some tunnel =>
        (s.modifyOp op fun o =>
          { o with
            accepting := true
            bound := some (tunnel.client, s.operations tunnel.client) }).ask
          tunnel.client (.accept op)
          (.acceptTunnel tunnel.client tunnel.id (s.ops op).peer)

/-- The first half of `async_accept_internal`: the error with which the operation
is refused, and the state in which it is admitted. -/
def admitAccept (s : Acceptor) (op : Nat) : Acceptor × ErrorCode :=
  let o := s.ops op
  if o.initiationError.failed then (s, o.initiationError)
  else if s.acceptOp.isSome then (s, Error.Code.operationInProgress)
  else if s.state = .null then
    if ¬o.reserved then (s, Error.Code.invalidState)
    else ({ s with startPending := false, endpoint := o.initialEndpoint, state := .idle }, .none)
  else (s, .none)

/-- The client of the acceptor, made with the present settings when there is none. -/
def ensureClient (s : Acceptor) : Acceptor :=
  match s.client with
  | some _ => s
  | none =>
    ({ s with client := some s.clients, clients := s.clients + 1 } : Acceptor).emit
      (.makeClient s.settings.config)

def asyncAcceptInternal (s : Acceptor) (op : Nat) (oracle : AcceptorOracle) : Acceptor :=
  if (s.ops op).cancelled then
    (s.releaseAcceptReservation op).completeAccept op .operationAborted
  else
    let (s, errorCode) := s.admitAccept op
    if errorCode.failed then s.completeAccept op errorCode
    else
      let s := { s.ensureClient with acceptOp := some op }
      if s.state = .idle then s.doConnect oracle
      else if s.tunnel.isSome then s.doAccept
      else s

/-- The emission of the cancellation signal of an accept operation. -/
def emitCancellation (s : Acceptor) (op : Nat) : Acceptor :=
  match (s.ops op).bound with
  | none => s
  | some (client, index) => s.emit (.cancelAccept client index)

def cancelAccept (s : Acceptor) (op : Nat) : Acceptor :=
  if ¬(s.ops op).cancelled ∨ (s.ops op).completed then s
  else if s.acceptOp ≠ some op then
    (s.releaseAcceptReservation op).completeAccept op .operationAborted
  else if (s.ops op).accepting then s.emitCancellation op
  else ({ s with acceptOp := none } : Acceptor).completeAccept op .operationAborted

/-! ## Calls -/

/-- The part of `async_accept` under the mutex: the operation object, with the
error of its initiation or the reservation of the start. -/
def reserveAccept (s : Acceptor) (peer : PeerId) : Acceptor :=
  let allocate (f : AcceptOp → AcceptOp) : Acceptor :=
    { s.modifyOp s.nextOp (fun o => { f o with live := true, peer := peer }) with
      nextOp := s.nextOp + 1 }
  if s.startPending then
    allocate fun o => { o with initiationError := Error.Code.operationInProgress }
  else if s.isStateNonNull then allocate id
  else
    match s.localEndpoint with
    | none => allocate fun o => { o with initiationError := Error.Code.noValidEndpoint }
    | some endpoint =>
      if endpoint.serverAddressFromUriParam ∧ ¬s.settings.config.noToken
          ∧ ¬s.settings.config.tokenFromUriParam then
        allocate fun o =>
          { o with
            initialEndpoint := endpoint, initiationError := Error.Code.invalidConfiguration }
      else
        { allocate fun o => { o with initialEndpoint := endpoint, reserved := true } with
          isStateNonNull := true, startPending := true }

/-- A call, up to the strand: the state it leaves, and the work it dispatches. -/
def issue (s : Acceptor) : AcceptorCall → Acceptor × Option AcceptorWork
  | .setControlCallbacks callbacks =>
    (if s.isStateNonNull then s else { s with controlCallbacks := callbacks }, none)
  | .settings settings => (if s.isStateNonNull then s else { s with settings := settings }, none)
  | .bind endpoint =>
    (if s.isStateNonNull then s else { s with localEndpoint := some endpoint }, none)
  | .asyncAccept peer => (s.reserveAccept peer, some (.asyncAcceptInternal s.nextOp))
  | .close => if s.closing then (s, none) else ({ s with closing := true }, some .closeInternal)
  | .cancel op =>
    if (s.ops op).live then
      (s.modifyOp op fun o => { o with cancelled := true }, some (.cancelAccept op))
    else (s, none)

/-- The work that a call dispatched to the strand. -/
def perform (s : Acceptor) (work : AcceptorWork) (oracle : AcceptorOracle) : Acceptor :=
  match work with
  | .asyncAcceptInternal op => s.asyncAcceptInternal op oracle
  | .cancelAccept op => s.cancelAccept op
  | .closeInternal => s.closeInternal

/-- A call made outside the strand. -/
def call (s : Acceptor) (call : AcceptorCall) : Acceptor :=
  (s.issue call).2.elim (s.issue call).1 fun work =>
    { (s.issue call).1 with tasks := (s.issue call).1.tasks ++ [work] }

/-- A call made by a callback on the strand: what it dispatches runs at once. -/
def callOnStrand (oracle : AcceptorOracle) (s : Acceptor) (call : AcceptorCall) : Acceptor :=
  (s.issue call).2.elim (s.issue call).1 fun work => (s.issue call).1.perform work oracle

/-- A new `m_status` and the status callback, with the calls it makes. -/
def notify (s : Acceptor) (status : StatusExtd) (oracle : AcceptorOracle)
    (calls : List AcceptorCall) : Acceptor :=
  let s := { s with status := status }
  if s.controlCallbacks.onStatus then
    calls.foldl (callOnStrand oracle) (s.emit (.status status))
  else s

/-- A status that says what happened and names no tunnel. -/
def statusOf (s : Acceptor) (text : String) : StatusExtd :=
  { s.serverStatus with text := some text }

/-- A status text that ends with the lowercase text of an error. -/
def errorText (host : Host) (text : String) (errorCode : ErrorCode) : String :=
  text ++ " (" ++ (host.message errorCode).toLower ++ ")"

/-! ## Completions and notifications -/

def onConnect (host : Host) (s : Acceptor) (errorCode : ErrorCode) (oracle : AcceptorOracle)
    (calls : List AcceptorCall) : Acceptor :=
  if s.state ≠ .connecting then s
  else if s.closing then s.onClose .none
  else if errorCode.failed then
    if s.settings.autoReconnect then
      (({ s with state := .idle } : Acceptor).notify
        (s.statusOf (errorText host "connection failed" errorCode)) oracle calls).doReconnect
    else s.onError errorCode
  else
    (({ s with state := .connected } : Acceptor).notify (s.statusOf "connected") oracle
      calls).doCreateTunnel oracle

/-- `on_create_tunnel` with an error. -/
def onCreateTunnelFailed (host : Host) (s : Acceptor) (errorCode : ErrorCode)
    (oracle : AcceptorOracle) (calls : List AcceptorCall) : Acceptor :=
  let s := s.notify (s.statusOf (errorText host "tunnel creation failed" errorCode)) oracle calls
  if s.state ≠ .connected ∨ s.closing then s
  else if s.settings.autoRecreateTunnel then s.doRecreateTunnel
  else s.onError errorCode

/-- The tunnel properties callback, with the calls it makes. -/
def notifyProperties (s : Acceptor) (properties : TunnelProperties) (oracle : AcceptorOracle)
    (calls : List AcceptorCall) : Acceptor :=
  if properties.id.isSome ∧ s.controlCallbacks.onTunnelProperties then
    calls.foldl (callOnStrand oracle) (s.emit (.tunnelProperties properties))
  else s

def onTunnelCreated (s : Acceptor) (tunnel : TunnelHandle) (properties : TunnelProperties)
    (oracle : AcceptorOracle) (propertiesCalls calls : List AcceptorCall) : Acceptor :=
  let s := ({ s with tunnel := some tunnel } : Acceptor).notifyProperties properties oracle
    propertiesCalls
  if s.state ≠ .connected ∨ s.closing then s
  else
    let s := s.notify
      { s.statusOf "online" with
        tunnelId := properties.id, forwarding := formatForwardingAddress properties } oracle calls
    if s.state ≠ .connected ∨ s.closing then s else s.doAccept

/-- `on_create_tunnel`. A success without a tunnel dereferences a null pointer. -/
def onCreateTunnel (host : Host) (s : Acceptor) (client : Nat) (errorCode : ErrorCode)
    (value : Value) (oracle : AcceptorOracle) (propertiesCalls calls : List AcceptorCall) :
    Acceptor :=
  if s.state ≠ .connected then s
  else if errorCode.failed then s.onCreateTunnelFailed host errorCode oracle calls
  else
    match value with
    | .tunnel id properties =>
      s.onTunnelCreated ⟨client, id⟩ properties oracle propertiesCalls calls
    | _ => s.emit .fault

/-- `on_accept` with an error. -/
def onAcceptFailed (s : Acceptor) (errorCode : ErrorCode) (oracle : AcceptorOracle)
    (calls : List AcceptorCall) : Acceptor :=
  let s := { s with tunnel := none }
  if s.settings.autoRecreateTunnel then
    (s.notify (s.statusOf "connected") oracle calls).doRecreateTunnel
  else s.onError errorCode

/-- `m_accept_op = nullptr` if it is the operation, and `complete_accept`. -/
def finishAccept (s : Acceptor) (op : Nat) (errorCode : ErrorCode) : Acceptor :=
  ({ s with acceptOp := if s.acceptOp = some op then none else s.acceptOp } :
    Acceptor).completeAccept op errorCode

def onAccept (s : Acceptor) (op : Nat) (errorCode : ErrorCode) (oracle : AcceptorOracle)
    (calls : List AcceptorCall) : Acceptor :=
  let s := s.modifyOp op fun o => { o with accepting := false }
  if (s.ops op).cancelled then s.finishAccept op .operationAborted
  else if s.state ≠ .connected ∨ s.closing then s
  else if errorCode.failed then s.onAcceptFailed errorCode oracle calls
  else s.finishAccept op errorCode

/-- `on_timer_cb` for a wait that expired. -/
def onTimerCb (s : Acceptor) (oracle : AcceptorOracle) : Acceptor :=
  if s.closing then s
  else if s.state = .idle then s.doConnect oracle
  else if s.state = .connected then s.doCreateTunnel oracle
  else s

def onClientDisconnection (host : Host) (s : Acceptor) (errorCode : ErrorCode)
    (oracle : AcceptorOracle) (calls : List AcceptorCall) : Acceptor :=
  if s.state ≠ .connected then s
  else if s.closing ∨ ¬errorCode.failed then s.onClose errorCode
  else if s.settings.autoReconnect then
    (({ s with state := .idle, tunnel := none } : Acceptor).cancelTimer.notify
      (s.statusOf (errorText host "disconnected" errorCode)) oracle calls).doReconnect
  else s.onError errorCode

def onClientStatus (s : Acceptor) (status : Status) (oracle : AcceptorOracle)
    (calls : List AcceptorCall) : Acceptor :=
  let s := { s with serverStatus := Client.mergeStatus s.serverStatus status }
  if s.state ≠ .connected then s
  else s.notify { s.status with toStatus := s.serverStatus } oracle calls

/-- The completion handler of a request. -/
def onCompleted (host : Host) (s : Acceptor) (request : Request) (errorCode : ErrorCode)
    (value : Value) (oracle : AcceptorOracle) (propertiesCalls calls : List AcceptorCall) :
    Acceptor :=
  match request.kind with
  | .connect => s.onConnect host errorCode oracle calls
  | .create => s.onCreateTunnel host request.client errorCode value oracle propertiesCalls calls
  | .accept op => s.onAccept op errorCode oracle calls

/-! ## Steps -/

/-- An event of the acceptor. -/
inductive Event where
  | call (call : AcceptorCall)
  | run (index : Nat) (oracle : AcceptorOracle)
  | expire
  | timer (oracle : AcceptorOracle)
  | completed (request : Request) (errorCode : ErrorCode) (value : Value)
      (oracle : AcceptorOracle) (propertiesCalls calls : List AcceptorCall)
  | disconnection (errorCode : ErrorCode) (oracle : AcceptorOracle) (calls : List AcceptorCall)
  | status (status : Status) (oracle : AcceptorOracle) (calls : List AcceptorCall)

/-- One step of the acceptor. -/
def step (host : Host) (s : Acceptor) : Event → Option Acceptor
  | .call call => some (s.call call)
  | .run index oracle =>
    match s.tasks[index]? with
    | none => none
    | some work =>
      some (({ s with tasks := s.tasks.eraseIdx index } : Acceptor).perform work oracle)
  | .expire =>
    if s.timerArmed then
      some { s with timerArmed := false, timerExpired := s.timerExpired + 1 }
    else none
  | .timer oracle =>
    if 0 < s.timerExpired then
      some (({ s with timerExpired := s.timerExpired - 1 } : Acceptor).onTimerCb oracle)
    else none
  | .completed request errorCode value oracle propertiesCalls calls =>
    if request ∈ s.requests then
      some (({ s with requests := s.requests.erase request } : Acceptor).onCompleted host request
        errorCode value oracle propertiesCalls calls)
    else none
  | .disconnection errorCode oracle calls =>
    some (s.onClientDisconnection host errorCode oracle calls)
  | .status status oracle calls => some (s.onClientStatus status oracle calls)

end Acceptor

end Rstream.IoRstrm
