import Rstream.IoRstrm.Client.State

/-!
# The control-channel client: its handlers

Each definition is the member function of `client::impl` with the same name, as
a function on the state. A handler that the source binds to a captured
generation takes that generation as an argument. What a handler receives from
outside (an error code, resolver results, a parsed message) is an argument as
well; `Oracle` collects the values that are produced inside a handler and that
the client does not determine.

The source reports a failed serialisation and a failed `peer->settings` through
`on_error` and `on_connect_stream`; both paths are here. Reading the id of a
tunnel response whose properties carry none is undefined behaviour; the model
records it as `Output.fault` and continues with the empty id.
-/

namespace Rstream.IoRstrm

open Std (TreeMap)

/-- What a handler obtains while it runs: the request ids that
`generate_request_id` returns in the successive attempts, whether the peer of an
accept already has an implementation, and the error of `peer->settings`. -/
structure Oracle where
  requestId : Nat → String := fun _ => ""
  peerInitialized : Bool := true
  settings : ErrorCode := .none

namespace Client

/-! ## State, timers and completions -/

@[simps]
def setState (s : Client) (state : ClientState) : Client :=
  { s with state := state, stateChanges := s.stateChanges + 1 }

def armStateTimer (s : Client) (timeoutMs : Nat) : Client :=
  if timeoutMs = 0 then s else s.start (.stateTimer s.stateChanges)

/-- The body shared by `complete_connect`, `complete_create_tunnel` and
`complete_accept_tunnel`. -/
def complete (s : Client) (op : OpId) (errorCode : ErrorCode) (value : Value) : Client :=
  if (s.ops op).completed then s
  else (s.modifyOp op fun o => { o with completed := true, handler := false }).emit
    (.completed op errorCode value s.connection)

def completeConnect (s : Client) (op : Option Nat) (errorCode : ErrorCode) : Client :=
  match op with
  | none => s
  | some op =>
    if (s.ops (.connect op)).completed then s
    else
      let s := s.complete (.connect op) errorCode .unit
      if s.connectOp = some op then { s with connectOp := none } else s

def completeCreateTunnel (s : Client) (op : Nat) (errorCode : ErrorCode) (tunnel : Value) :
    Client :=
  s.complete (.createTunnel op) errorCode tunnel

/-- `complete_accept_tunnel`. The value is what the peer and endpoint references
of the operation hold at that moment. -/
def completeAcceptTunnel (s : Client) (op : Nat) (errorCode : ErrorCode) (value : Value) :
    Client :=
  s.complete (.acceptTunnel op) errorCode value

/-! ## Closing -/

def onClose (s : Client) (errorCode : ErrorCode) : Client :=
  if s.state = .null ∨ s.closePending then s
  else
    let cause := s.errorCode.orElse errorCode
    let previousState := s.state
    let callback := s.controlCallbacks.onDisconnection
    let s := { s with closePending := true, generation := s.generation + 1 }
    let s := if s.state = .closing then s else s.setState .closing
    s.start (.queueCancel cause previousState callback)

def onError (s : Client) (errorCode : ErrorCode) : Client :=
  if errorCode.failed then s.onClose errorCode else s

/-! ## Sending -/

/-- `do_send_message`. The callback is either absent or `do_send_heartbeat`. -/
def doSendMessage (host : Host) (s : Client) (message : Message) (heartbeat : Bool) : Client :=
  if s.state = .null then s
  else if host.serializes message then
    (s.emit (.sent s.connection s.isSecure message)).start (.send heartbeat)
  else s.onError Error.Code.protocolError

/-- `do_send_heartbeat`, the whole of `send_heartbeat`. -/
def doSendHeartbeat (s : Client) : Client :=
  if s.config.heartbeatIntervalMs = 0 then s
  else if s.state ≠ .connected then s
  else s.start (.heartbeatTimer s.stateChanges)

def onSendMessage (s : Client) (generation : Nat) (errorCode : ErrorCode) (heartbeat : Bool) :
    Client :=
  if generation ≠ s.generation ∨ s.state = .null then s
  else if errorCode.failed then s.onError errorCode
  else if heartbeat then s.doSendHeartbeat
  else s

/-- The timer callback of `do_send_heartbeat`. -/
def onHeartbeatTimer (host : Host) (s : Client) (generation stateChanges : Nat)
    (errorCode : ErrorCode) : Client :=
  if stateChanges ≠ s.stateChanges then s
  else if ¬errorCode.failed ∧ generation = s.generation then s.doSendMessage host .heartbeat true
  else s

/-- The timer callback of `arm_state_timer`. -/
def onStateTimer (s : Client) (generation stateChanges : Nat) (errorCode : ErrorCode) : Client :=
  if stateChanges ≠ s.stateChanges then s
  else if ¬errorCode.failed ∧ generation = s.generation then
    s.onError Error.Code.operationTimeout
  else s

def closeInternal (host : Host) (s : Client) (errorCode : ErrorCode) : Client :=
  match s.state with
  | .null => s
  | .connecting => s.onClose errorCode
  | .connected =>
    let s := (s.setState .closing).armStateTimer s.config.connectionTimeoutMs
    let s := { s with errorCode := s.errorCode.orElse errorCode }
    s.doSendMessage host .closeControlChannelReq false
  | .closing => s

/-! ## Connecting -/

def releaseConnectReservation (s : Client) (op : Nat) : Client :=
  if ¬(s.ops (.connect op)).reserved ∨ s.state ≠ .null then s
  else if s.isStateNonNull then
    { s.modifyOp (.connect op) (fun o => { o with reserved := false }) with
      isStateNonNull := false, serverAddress := {} }
  else s

def cancelConnect (s : Client) (op : Nat) : Client :=
  if ¬(s.ops (.connect op)).cancelled ∨ (s.ops (.connect op)).completed then s
  else if s.connectOp = some op then s.onClose .operationAborted
  else (s.releaseConnectReservation op).completeConnect (some op) .operationAborted

def doResolveHost (s : Client) : Client := s.start .resolve

def asyncConnectInternal (s : Client) (op : Nat) : Client :=
  if ¬(s.ops (.connect op)).handler then s
  else if (s.ops (.connect op)).cancelled then
    (s.releaseConnectReservation op).completeConnect (some op) .operationAborted
  else if ¬(s.ops (.connect op)).reserved ∨ s.state ≠ .null then
    s.completeConnect (some op) Error.Code.invalidState
  else
    let s := { s with
      generation := s.generation + 1, connection := s.connection + 1, connectOp := some op }
    ((s.setState .connecting).armStateTimer s.config.connectionTimeoutMs).doResolveHost

/-- `do_connect`: the range connect is spawned over the resolved endpoints. -/
def doConnect (s : Client) (results : List ResolvedEndpoint) : Client :=
  s.start (.rangeSpawn results)

def onDoResolveHost (s : Client) (generation : Nat) (errorCode : ErrorCode)
    (results : List ResolvedEndpoint) : Client :=
  if generation ≠ s.generation ∨ s.state ≠ .connecting then s
  else
    let cause := if ¬errorCode.failed ∧ results.isEmpty then
      Error.Code.noValidEndpoint.toErrorCode else errorCode
    if cause.failed then s.onError cause else s.doConnect results

def effectiveClientDetails (host : Host) (s : Client) : Except ErrorCode ClientDetails :=
  if hasClientCertificateConfig s.serverAddress then s.mtlsToken.map (getClientDetails host)
  else s.token.map (getClientDetails host)

def doOpen (host : Host) (s : Client) : Client :=
  match s.effectiveClientDetails host with
  | .error errorCode => s.onError errorCode
  | .ok details =>
    if details.token.isSome ∧ ¬s.isSecure then s.onError Error.Code.protocolError
    else s.doSendMessage host (.openControlChannelReq details) false

def doReadIncomingMessage (s : Client) : Client :=
  if s.state = .null then s else s.start .read

def onConnect (host : Host) (s : Client) (generation : Nat) (errorCode : ErrorCode) : Client :=
  if generation ≠ s.generation ∨ s.state ≠ .connecting then s
  else if errorCode.failed then s.onError errorCode
  else (s.doOpen host).doReadIncomingMessage

/-! ## The range connect

`boost::asio::async_connect` over the resolved endpoints is a coroutine that
shares `m_socket` with the client and runs on the executor, not on the strand.
It is resumed when it is spawned and when an attempt completes. -/

/-- `stream_socket::impl::close` on `m_socket`. -/
@[simps]
def closeSocket (s : Client) : Client := { s with socket := none }

/-- `stream_socket::impl::async_connect` on `m_socket`, called by the range
connect of a connection. A transport that is there is connected again. -/
def socketAsyncConnect (s : Client) (connection : Nat) (endpoint : ResolvedEndpoint) : Client :=
  match s.socket with
  | some _ => s.emit (.socketConnect connection)
  | none =>
    if endpoint.init.failed then s
    else (({ s with socket := some ⟨endpoint.ssl, connection⟩ } : Client).emit
      (.socketOpen connection)).emit (.socketConnect connection)

/-- The head of the loop: the next endpoint, or the end of the sequence with the
last error. -/
def rangeNext (s : Client) (task : Task) (errorCode : ErrorCode) :
    List ResolvedEndpoint → Client
  | [] => s.resume task (.onConnect errorCode)
  | endpoint :: rest => (s.socketAsyncConnect task.connection endpoint).resume task (.rangeAttempt rest)

/-- `boost::asio::error::not_found`, the error of an empty sequence. -/
def notFound : ErrorCode := ⟨1, .other "asio.misc"⟩

/-- The range connect after an attempt has completed. -/
def onRangeAttempt (s : Client) (task : Task) (errorCode : ErrorCode)
    (rest : List ResolvedEndpoint) : Client :=
  if ¬errorCode.failed ∨ errorCode = .operationAborted then s.resume task (.onConnect errorCode)
  else ((s.closeSocket).emit (.socketClose task.connection)).rangeNext task errorCode rest

/-! ## Tunnels -/

def doCreateTunnel (host : Host) (s : Client) (requestId : String) (op : Nat) : Client :=
  if s.state ≠ .connected then s
  else s.doSendMessage host (.openTunnelReq requestId (s.ops (.createTunnel op)).properties) false

/-- The first of the 32 generated request ids that no pending operation uses. -/
def freshRequestId (s : Client) (oracle : Oracle) : Option String :=
  ((List.range 32).map oracle.requestId).find? fun requestId => !s.createTunnelOps.contains requestId

def asyncCreateTunnelInternal (host : Host) (s : Client) (op : Nat) (oracle : Oracle) : Client :=
  if ¬(s.ops (.createTunnel op)).handler then s
  else if (s.ops (.createTunnel op)).cancelled then s.completeCreateTunnel op .operationAborted .unit
  else if s.state ≠ .connected then s.completeCreateTunnel op Error.Code.invalidState .unit
  else if ((s.ops (.createTunnel op)).properties.type.isSome ∧ (s.ops (.createTunnel op)).properties.type ≠ some "bytestream")
      ∨ invalidPublishedTcpOptions (s.ops (.createTunnel op)).properties then
    s.completeCreateTunnel op Error.Code.invalidConfiguration .unit
  else
    match s.freshRequestId oracle with
    | none => s.completeCreateTunnel op Error.Code.internal .unit
    | some requestId =>
      ({ s with createTunnelOps := s.createTunnelOps.insertIfNew requestId op } :
        Client).doCreateTunnel host requestId op

def cancelCreateTunnel (s : Client) (op : Nat) : Client :=
  if ¬(s.ops (.createTunnel op)).cancelled ∨ (s.ops (.createTunnel op)).completed then s
  else s.completeCreateTunnel op .operationAborted .unit

def doCloseTunnel (host : Host) (s : Client) (tunnelId : String) : Client :=
  if s.state ≠ .connected then s else s.doSendMessage host (.closeTunnelReq tunnelId) false

def closeTunnelInternal (host : Host) (s : Client) (tunnelId : String) : Client :=
  if s.state ≠ .connected then s
  else
    match s.tunnels[tunnelId]? with
    | none => s
    | some tunnel =>
      if tunnel.closing then s
      else (s.modifyTunnel tunnelId fun t => { t with closing := true }).doCloseTunnel host tunnelId

/-- The tunnel a successful response inserts into `m_tunnels`. -/
def insertTunnel (s : Client) (properties : TunnelProperties) : Client :=
  -- `tunnel_properties.m_id.get()` on an absent id
  let s := if properties.id.isNone then s.emit .fault else s
  { s with tunnels := s.tunnels.insertIfNew (properties.id.getD "") {} }

/-- The outcome of a create operation. A tunnel that was opened for a cancelled
operation is closed again. -/
def settleTunnelResponse (host : Host) (s : Client) (op : Nat) (properties : TunnelProperties)
    (errorCode : ErrorCode) : Client :=
  let tunnelId := properties.id.getD ""
  if (s.ops (.createTunnel op)).cancelled then
    let s := s.completeCreateTunnel op .operationAborted .unit
    if errorCode.failed then s else s.closeTunnelInternal host tunnelId
  else
    s.completeCreateTunnel op errorCode
      (if errorCode.failed then .unit else .tunnel tunnelId properties)

def onTunnelResponse (host : Host) (s : Client) (requestId : String) (op : Nat)
    (properties : TunnelProperties) (errorCode : ErrorCode) : Client :=
  let s := if errorCode.failed then s else s.insertTunnel properties
  let s := s.settleTunnelResponse host op properties errorCode
  { s with createTunnelOps := s.createTunnelOps.erase requestId }

/-- The loop of `on_tunnel_close` over the streams that have a socket. -/
def closeStreams (s : Client) (streams : TreeMap String Container) : Client :=
  streams.toList.foldl
    (fun s entry => entry.2.ptr.elim s fun stream => s.emit (.closePeer stream.peer)) s

/-- Close the peer of an accept operation that is connecting. -/
def closeBusyPeer (s : Client) (op : Nat) : Client :=
  if (s.ops (.acceptTunnel op)).busy then s.emit (.closePeer (s.ops (.acceptTunnel op)).peer)
  else s

def onTunnelClose (s : Client) (tunnelId : String) : Client :=
  match s.tunnels[tunnelId]? with
  | none => s
  | some tunnel =>
    let s := s.closeStreams tunnel.streams
    let s := tunnel.acceptOp.elim s fun op =>
      (s.closeBusyPeer op).completeAcceptTunnel op Error.Code.tunnelNotFound .unit
    { s with tunnels := s.tunnels.erase tunnelId }

/-! ## Proxied streams -/

def doSendProxyResponse (host : Host) (s : Client) (streamId : String) (errorCode : ErrorCode) :
    Client :=
  if s.state ≠ .connected then s
  else
    let error := if errorCode.failed then
      some (⟨errorCode.value, some (host.message errorCode)⟩ : WireError) else none
    s.doSendMessage host (.proxyConnRsp streamId error) false

/-- The address a stream connects to. -/
def streamAddress (s : Client) (context : StreamContext) : Address :=
  context.proxyEndpoint.getD s.serverAddress

/-- The endpoint an accept operation receives for a stream. -/
def acceptedEndpoint (s : Client) (streamId : String) (context : StreamContext) : Endpoint :=
  { idName := some streamId, serverAddress := s.streamAddress context,
    serverAddressFromUriParam := false, secret := none, sourceIp := context.sourceIp }

/-- The pending accept operation of a tunnel, if any, stops being busy. -/
def releaseBusy (s : Client) (tunnel : Tunnel) : Client :=
  tunnel.acceptOp.elim s fun op =>
    s.modifyOp (.acceptTunnel op) fun o => { o with busy := false }

/-- What the outcome of a connect attempt does to its stream: a failed stream is
erased, a connected one is handed to the pending accept operation or, when it has
a socket of its own, waits for the next one. -/
def settleStream (s : Client) (tunnelId streamId : String) (tunnel : Tunnel)
    (container : Container) (errorCode : ErrorCode) : Client :=
  if errorCode.failed then
    s.modifyTunnel tunnelId fun t => { t with streams := t.streams.erase streamId }
  else
    match tunnel.acceptOp, container.ptr with
    | some op, ptr =>
      let peer := ptr.elim (s.ops (.acceptTunnel op)).peer fun stream => stream.peer
      let s := s.completeAcceptTunnel op .none
        (.accepted (s.acceptedEndpoint streamId container.context) peer)
      s.modifyTunnel tunnelId fun t =>
        { t with streams := t.streams.erase streamId, acceptOp := none }
    | none, some _ =>
      s.modifyTunnel tunnelId fun t =>
        { t with streams := t.streams.modify streamId fun c =>
            { c with ptr := c.ptr.map fun stream => { stream with connected := true } } }
    | none, none => s

def onConnectStream (host : Host) (s : Client) (generation : Nat) (tunnelId streamId : String)
    (errorCode : ErrorCode) : Client :=
  if generation ≠ s.generation ∨ s.state ≠ .connected then s
  else
    match s.tunnels[tunnelId]? with
    | none => s.doSendProxyResponse host streamId Error.Code.tunnelNotFound
    | some tunnel =>
      match tunnel.streams[streamId]? with
      | none => s.doSendProxyResponse host streamId Error.Code.invalidStream
      | some container =>
        ((s.releaseBusy tunnel).settleStream tunnelId streamId tunnel container
          errorCode).doSendProxyResponse host streamId errorCode

/-- The part of `do_connect_stream` after a peer has been found: the peer gets the
client's configuration and starts to connect. The source hands the ids to
`on_connect_stream` by reference into the map node; here they are values. -/
def connectPeer (host : Host) (s : Client) (tunnelId streamId : String) (context : StreamContext)
    (peer : PeerId) (owner : Option Nat) (oracle : Oracle) : Client :=
  if oracle.settings.failed then
    s.onConnectStream host s.generation tunnelId streamId oracle.settings
  else
    let endpoint : Endpoint :=
      { idName := some streamId, serverAddress := s.streamAddress context,
        serverAddressFromUriParam := false, secret := context.secret,
        sourceIp := context.sourceIp }
    (s.emit (.connectStream s.connection peer s.config.toConfig endpoint
      context.proxyEndpoint.isSome)).start (.connectStream tunnelId streamId peer owner)

def doConnectStream (host : Host) (s : Client) (tunnelId streamId : String) (tunnel : Tunnel)
    (container : Container) (oracle : Oracle) : Client :=
  match container.ptr, tunnel.acceptOp with
  | some stream, _ =>
    s.connectPeer host tunnelId streamId container.context stream.peer none oracle
  | none, some op =>
    if (s.ops (.acceptTunnel op)).busy then s
    else
      (s.modifyOp (.acceptTunnel op) fun o => { o with busy := true }).connectPeer host tunnelId
        streamId container.context (s.ops (.acceptTunnel op)).peer (some op) oracle
  | none, none => s

/-- The container of a new stream. In the asynchronous mode it has a socket of its
own. -/
def newContainer (s : Client) (context : StreamContext) : Container :=
  { ptr := if s.config.asyncStreamOperation then some { peer := s.nextPeer } else none
    context := context }

/-- A proxy request is admitted: its stream is inserted into `m_streams`. -/
def admitStream (s : Client) (tunnelId streamId : String) (context : StreamContext) : Client :=
  { (s.emit (.proxyRequest s.connection streamId true)).modifyTunnel tunnelId fun t =>
      { t with streams := t.streams.insertIfNew streamId (s.newContainer context) } with
    nextPeer := if s.config.asyncStreamOperation then s.nextPeer + 1 else s.nextPeer }

/-- A proxy request is rejected with an error response. -/
def rejectStream (host : Host) (s : Client) (streamId : String) (errorCode : ErrorCode) :
    Client :=
  (s.emit (.proxyRequest s.connection streamId false)).doSendProxyResponse host streamId errorCode

def onProxyRequest (host : Host) (s : Client) (tunnelId streamId : String) (tunnel : Tunnel)
    (context : StreamContext) (oracle : Oracle) : Client :=
  if s.state ≠ .connected then s
  else if s.config.maxOngoingStreams > 0 ∧ tunnel.streams.size ≥ s.config.maxOngoingStreams then
    s.rejectStream host streamId Error.Code.operationAborted
  else if tunnel.streams.contains streamId then
    s.rejectStream host streamId Error.Code.operationInProgress
  else
    (s.admitStream tunnelId streamId context).doConnectStream host tunnelId streamId tunnel
      (s.newContainer context) oracle

/-- The first stream of a tunnel that is connected. -/
def connectedStream (tunnel : Tunnel) : Option (String × Container) :=
  tunnel.streams.toList.find? fun entry => entry.2.ptr.any (·.connected)

/-- The first stream of a tunnel without a socket of its own. -/
def waitingStream (tunnel : Tunnel) : Option (String × Container) :=
  tunnel.streams.toList.find? fun entry => entry.2.ptr.isNone

/-- A connected stream is handed to an accept operation that just arrived. -/
def handOver (s : Client) (tunnelId : String) (op : Nat) (streamId : String)
    (container : Container) : Client :=
  let peer := container.ptr.elim (s.ops (.acceptTunnel op)).peer fun stream => stream.peer
  let s := s.completeAcceptTunnel op .none
    (.accepted (s.acceptedEndpoint streamId container.context) peer)
  s.modifyTunnel tunnelId fun t => { t with streams := t.streams.erase streamId }

/-- The accept operation becomes the pending one of its tunnel. -/
def storeAccept (s : Client) (tunnelId : String) (op : Nat) : Client :=
  s.modifyTunnel tunnelId fun t => { t with acceptOp := some op }

/-- The part of `async_accept_tunnel_internal` after the checks. -/
def acceptOnTunnel (host : Host) (s : Client) (tunnelId : String) (tunnel : Tunnel) (op : Nat)
    (oracle : Oracle) : Client :=
  if s.config.asyncStreamOperation then
    match connectedStream tunnel with
    | some (streamId, container) => s.handOver tunnelId op streamId container
    | none => s.storeAccept tunnelId op
  else
    match waitingStream tunnel with
    | some (streamId, container) =>
      (s.storeAccept tunnelId op).doConnectStream host tunnelId streamId
        { tunnel with acceptOp := some op } container oracle
    | none => s.storeAccept tunnelId op

def asyncAcceptTunnelInternal (host : Host) (s : Client) (tunnelId : String) (op : Nat)
    (oracle : Oracle) : Client :=
  if ¬(s.ops (.acceptTunnel op)).handler then s
  else if (s.ops (.acceptTunnel op)).cancelled then
    s.completeAcceptTunnel op .operationAborted .unit
  else if s.state ≠ .connected then s.completeAcceptTunnel op Error.Code.invalidState .unit
  else
    match s.tunnels[tunnelId]? with
    | none => s.completeAcceptTunnel op Error.Code.tunnelNotFound .unit
    | some tunnel =>
      if tunnel.acceptOp.isSome then
        s.completeAcceptTunnel op Error.Code.operationInProgress .unit
      else
        let s := if oracle.peerInitialized then
          s.emit (.closePeer (s.ops (.acceptTunnel op)).peer) else s
        s.acceptOnTunnel host tunnelId tunnel op oracle

def cancelAcceptTunnel (s : Client) (tunnelId : String) (op : Nat) : Client :=
  if ¬(s.ops (.acceptTunnel op)).cancelled ∨ (s.ops (.acceptTunnel op)).completed then s
  else
    match s.tunnels[tunnelId]? with
    | none => s
    | some tunnel =>
      if tunnel.acceptOp ≠ some op then s
      else
        let s := s.closeBusyPeer op
        let s := s.modifyTunnel tunnelId fun t => { t with acceptOp := none }
        s.completeAcceptTunnel op .operationAborted .unit

/-! ## The end of a connection -/

/-- What `on_queue_cancelled` resets before it sweeps the stores. -/
@[simps]
def reset (s : Client) : Client :=
  { s with
    socket := none, errorCode := .none, status := {}, state := .null
    stateChanges := s.stateChanges + 1, closePending := false, isStateNonNull := false
    serverAddress := {}, controlCallbacks := {} }

/-- The loop of `on_queue_cancelled` over `m_create_tunnel_ops`. -/
def failCreates (host : Host) (s : Client) (errorCode : ErrorCode) : Client :=
  s.createTunnelOps.toList.foldl
    (fun s entry => s.onTunnelResponse host entry.1 entry.2 {} errorCode) s

/-- The loop of `on_queue_cancelled` over `m_tunnels`. -/
def closeTunnels (s : Client) : Client :=
  s.tunnels.toList.foldl (fun s entry => s.onTunnelClose entry.1) s

/-- The end of the connect operation in `on_queue_cancelled`. -/
def dropConnect (s : Client) (previousState : ClientState) (errorCode : ErrorCode) : Client :=
  let s := if previousState = .connecting then s.completeConnect s.connectOp errorCode else s
  { s with connectOp := none }

def onQueueCancelled (host : Host) (s : Client) (errorCode cause : ErrorCode)
    (previousState : ClientState) (callback : Bool) : Client :=
  if ¬s.closePending then s
  else
    let closeCause := cause.orElse errorCode
    let reported := closeCause.orElse Error.Code.operationAborted
    let s := ((s.reset.failCreates host reported).closeTunnels).dropConnect previousState reported
    if (previousState = .connected ∨ previousState = .closing) ∧ callback then
      s.emit (.disconnection closeCause)
    else s

end Client

end Rstream.IoRstrm
