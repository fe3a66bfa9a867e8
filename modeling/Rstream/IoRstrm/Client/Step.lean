import Rstream.Library.Runs
import Rstream.IoRstrm.Client.Handlers

/-!
# The control-channel client: incoming messages, calls and steps

A step of the client is either a call made by its user or the run of a piece of
started work. A call allocates its operation object, reserves the connection
where the source does so under the mutex, and dispatches the rest to the strand.
Work may run in any order, so the runs include every interleaving of calls,
cancellations, server messages, completions and timers.

The status callback runs inside `on_open`, before the heartbeat is started. The
calls it makes are dispatched to the strand it is already running on, so they
run at once; `Input.calls` lists them.
-/

namespace Rstream.IoRstrm

open Std (TreeMap)

/-- The calls of the client's interface. `cancel` is the emission of the
cancellation signal bound to an operation. -/
inductive Call where
  | setControlCallbacks (callbacks : ControlCallbacks)
  | asyncConnect (address : Address)
  | asyncConnectDefault
  | asyncCreateTunnel (properties : TunnelProperties)
  | asyncAcceptTunnel (tunnelId : String) (peer : PeerId)
  | closeTunnel (tunnelId : String)
  | close
  | cancel (op : OpId)

/-- What a piece of work receives when it runs. -/
structure Input extends Oracle where
  errorCode : ErrorCode := .none
  results : List ResolvedEndpoint := []
  /-- The message that was read; `none` does not parse. -/
  message : Option Message := none
  /-- The calls that the status callback makes. -/
  calls : List (Call × Oracle) := []

namespace Client

/-! ## Calls -/

/-- Allocate the next operation object and fill in its arguments. -/
@[simps!]
def allocate (s : Client) (id : OpId) (arguments : Op → Op) : Client :=
  { s.modifyOp id (fun o => { arguments o with live := true }) with nextOp := s.nextOp + 1 }

def setControlCallbacks (s : Client) (callbacks : ControlCallbacks) : Client :=
  if s.isStateNonNull then s else { s with controlCallbacks := callbacks }

/-- The operation object of an `async_connect` and, when no other connect holds
it, the reservation of the connection. -/
def reserveConnect (s : Client) (address : Address) : Client :=
  if s.isStateNonNull then s.allocate (.connect s.nextOp) id
  else { s.allocate (.connect s.nextOp) (fun o => { o with reserved := true }) with
    isStateNonNull := true, serverAddress := address }

/-- `async_connect` with the default engine address, when there is none. -/
def refuseConnect (s : Client) (errorCode : ErrorCode) : Client :=
  (s.allocate (.connect s.nextOp) id).complete (.connect s.nextOp)
    (errorCode.orElse Error.Code.invalidConfiguration) .unit

/-- The handlers that `async_connect`, `async_create_tunnel` and
`async_accept_tunnel` assign to the cancellation slot dispatch this. -/
def cancelWork (s : Client) : OpId → Work
  | .connect index => .cancelConnect index
  | .createTunnel index => .cancelCreateTunnel index
  | .acceptTunnel index => .cancelAcceptTunnel (s.ops (.acceptTunnel index)).tunnelId index

/-- A call, up to the strand: the state it leaves, and the work it dispatches. The
two overloads of `async_connect`, `async_create_tunnel`, `async_accept_tunnel`,
`close_tunnel`, `close`, and a cancellation signal. -/
def issue (s : Client) : Call → Client × Option Work
  | .setControlCallbacks callbacks => (s.setControlCallbacks callbacks, none)
  | .asyncConnect address => (s.reserveConnect address, some (.asyncConnectInternal s.nextOp))
  | .asyncConnectDefault =>
    match s.defaultServerAddress with
    | .ok address => (s.reserveConnect address, some (.asyncConnectInternal s.nextOp))
    | .error errorCode => (s.refuseConnect errorCode, none)
  | .asyncCreateTunnel properties =>
    (s.allocate (.createTunnel s.nextOp) fun o =>
      { o with properties := normalizeTunnelProperties properties },
     some (.asyncCreateTunnelInternal s.nextOp))
  | .asyncAcceptTunnel tunnelId peer =>
    (s.allocate (.acceptTunnel s.nextOp) fun o => { o with peer := peer, tunnelId := tunnelId },
     some (.asyncAcceptTunnelInternal tunnelId s.nextOp))
  | .closeTunnel tunnelId => (s, some (.closeTunnelInternal tunnelId))
  | .close => (s, some .closeInternal)
  | .cancel op =>
    if (s.ops op).live then
      (s.modifyOp op fun o => { o with cancelled := true }, some (s.cancelWork op))
    else (s, none)

/-- A call made outside the strand. -/
def call (s : Client) (call : Call) : Client :=
  (s.issue call).2.elim (s.issue call).1 fun work => (s.issue call).1.start work

/-- The work that a call dispatched to the strand. -/
def performDispatched (host : Host) (s : Client) (work : Work) (oracle : Oracle) : Client :=
  match work with
  | .asyncConnectInternal op => s.asyncConnectInternal op
  | .asyncCreateTunnelInternal op => s.asyncCreateTunnelInternal host op oracle
  | .asyncAcceptTunnelInternal tunnelId op => s.asyncAcceptTunnelInternal host tunnelId op oracle
  | .cancelConnect op => s.cancelConnect op
  | .cancelCreateTunnel op => s.cancelCreateTunnel op
  | .cancelAcceptTunnel tunnelId op => s.cancelAcceptTunnel tunnelId op
  | .closeTunnelInternal tunnelId => s.closeTunnelInternal host tunnelId
  | .closeInternal => s.closeInternal host .none
  | _ => s

/-- A call made on the strand: what it dispatches runs at once. -/
def callOnStrand (host : Host) (s : Client) (entry : Call × Oracle) : Client :=
  (s.issue entry.1).2.elim (s.issue entry.1).1 fun work =>
    (s.issue entry.1).1.performDispatched host work entry.2

/-! ## Incoming messages -/

/-- The status callback in `on_open`, with the calls it makes. -/
def notifyStatus (host : Host) (s : Client) (calls : List (Call × Oracle)) : Client :=
  if s.controlCallbacks.onStatus then
    calls.foldl (callOnStrand host) (s.emit (.status s.status))
  else s

def onOpen (host : Host) (s : Client) (calls : List (Call × Oracle)) : Client :=
  if s.state ≠ .connecting then s
  else
    let s := ((s.setState .connected).completeConnect s.connectOp .none).notifyStatus host calls
    if s.config.hearbeat then s.doSendHeartbeat else s

def isMessageExpected : ClientState → Message → Bool
  | .connecting, .openControlChannelRsp _ => true
  | .connected, message | .closing, message =>
    match message with
    | .openTunnelRsp _ _ | .closeTunnelRsp _ | .proxyConnReq _ | .closeControlChannelRsp
    | .heartbeat | .serverMessage _ => true
    | _ => false
  | _, _ => false

/-- The fields of `server_details` that are present replace those of `m_status`. -/
def mergeStatus (status : Status) (details : Status) : Status :=
  { update := details.update.or status.update, plan := details.plan.or status.plan,
    provider := details.provider.or status.provider, region := details.region.or status.region }

/-- The open response in `on_read_incoming_message`. -/
def onOpenControlChannelRsp (host : Host) (s : Client) (payload : OpenControlChannelRsp)
    (calls : List (Call × Oracle)) : Client × ErrorCode :=
  match payload with
  | .ok clientId serverDetails =>
    if clientId = "" then (s, Error.Code.protocolError)
    else
      let s := serverDetails.elim s fun details =>
        { s with status := mergeStatus s.status details }
      (s.onOpen host calls, .none)
  | .error error => (s, Error.makeErrorCode error.code)
  | .notSet => (s, Error.Code.protocolError)

/-- What the tunnel response makes of the two error codes: the first closes the
client, the second is the outcome of the create operation. -/
def openTunnelErrors (s : Client) : OpenTunnelRsp → ErrorCode × TunnelProperties × ErrorCode
  | .tunnelProperties properties =>
    match properties.id with
    | none => (Error.Code.protocolError, properties, .none)
    | some tunnelId =>
      if properties.type.isSome ∧ properties.type ≠ some "bytestream" then
        (.none, properties, Error.Code.invalidConfiguration)
      else if s.tunnels.contains tunnelId then (Error.Code.protocolError, properties, .none)
      else (.none, properties, .none)
  | .error error => (.none, {}, Error.makeErrorCode error.code)
  | .notSet => (Error.Code.protocolError, {}, .none)

/-- The tunnel response in `on_read_incoming_message`. -/
def onOpenTunnelRsp (host : Host) (s : Client) (requestId : String) (payload : OpenTunnelRsp) :
    Client × ErrorCode :=
  match s.createTunnelOps[requestId]? with
  | none => (s, Error.Code.protocolError)
  | some op =>
    let (errorCode, properties, error) := s.openTunnelErrors payload
    if errorCode.failed then (s, errorCode)
    else (s.onTunnelResponse host requestId op properties error, .none)

/-- The context of a proxy request, or the error with which it is refused. A
request that names a proxy endpoint needs a secret that is not blank. -/
def proxyContext (host : Host) (s : Client) (request : ProxyConnReq) :
    Except ErrorCode StreamContext :=
  let sourceIp := request.sourceIp.bind WireIpAddress.convert
  match request.proxyEndpoint with
  | none => .ok { secret := request.secret, sourceIp := sourceIp }
  | some proxyEndpoint =>
    if request.secret.all isBlank ∨ isBlank proxyEndpoint then .error Error.Code.protocolError
    else
      (makeRedirectedServerAddress host.makeAddress s.serverAddress proxyEndpoint).map
        fun address =>
          { secret := request.secret, sourceIp := sourceIp, proxyEndpoint := some address }

/-- The proxy request in `on_read_incoming_message`. -/
def onProxyConnReq (host : Host) (s : Client) (request : ProxyConnReq) (oracle : Oracle) :
    Client × ErrorCode :=
  match s.tunnels[request.tunnelId]? with
  | none => (s, Error.Code.protocolError)
  | some tunnel =>
    match s.proxyContext host request with
    | .error errorCode =>
      (s.rejectStream host request.streamId errorCode, .none)
    | .ok context =>
      (s.onProxyRequest host request.tunnelId request.streamId tunnel context oracle, .none)

/-- The branches of `on_read_incoming_message`, with the error code they leave. -/
def dispatchMessage (host : Host) (s : Client) (message : Message) (input : Input) :
    Client × ErrorCode :=
  if ¬isMessageExpected s.state message then (s, Error.Code.protocolError)
  else
    match message with
    | .openControlChannelRsp payload => s.onOpenControlChannelRsp host payload input.calls
    | .openTunnelRsp requestId payload => s.onOpenTunnelRsp host requestId payload
    | .closeTunnelRsp tunnelId =>
      if s.tunnels.contains tunnelId then (s.onTunnelClose tunnelId, .none)
      else (s, Error.Code.protocolError)
    | .proxyConnReq request => s.onProxyConnReq host request input.toOracle
    | .closeControlChannelRsp =>
      (s.onClose (if s.state = .closing then .none else Error.Code.serverError), .none)
    | _ => (s, .none)

def onReadIncomingMessage (host : Host) (s : Client) (generation : Nat) (message : Message)
    (input : Input) : Client :=
  if generation ≠ s.generation ∨ s.state = .null then s
  else
    let (s, errorCode) := s.dispatchMessage host message input
    if generation ≠ s.generation then s
    else if errorCode.failed then s.onError errorCode
    else s.doReadIncomingMessage

def onReadIncomingData (host : Host) (s : Client) (generation : Nat) (input : Input) : Client :=
  if generation ≠ s.generation ∨ s.state = .null then s
  else if input.errorCode.failed then s.onError input.errorCode
  else
    match input.message with
    | some message => s.onReadIncomingMessage host generation message input
    | none => s.onError Error.Code.protocolError

/-! ## Steps -/

/-- Run a piece of work. The connect attempt of a stream first reports its
outcome, which the log keeps when it is a success. -/
def perform (host : Host) (s : Client) (task : Task) (input : Input) : Client :=
  match task.work with
  | .resolve => s.onDoResolveHost task.generation input.errorCode input.results
  | .rangeSpawn endpoints => s.rangeNext task notFound endpoints
  | .rangeAttempt rest => s.onRangeAttempt task input.errorCode rest
  | .onConnect errorCode => s.onConnect host task.generation errorCode
  | .read => s.onReadIncomingData host task.generation input
  | .send heartbeat => s.onSendMessage task.generation input.errorCode heartbeat
  | .connectStream tunnelId streamId peer owner =>
    let s := if input.errorCode.failed then s
      else s.emit (.streamConnected task.connection streamId peer owner)
    s.onConnectStream host task.generation tunnelId streamId input.errorCode
  | .stateTimer stateChanges => s.onStateTimer task.generation stateChanges input.errorCode
  | .heartbeatTimer stateChanges =>
    s.onHeartbeatTimer host task.generation stateChanges input.errorCode
  | .queueCancel cause previousState callback =>
    s.onQueueCancelled host input.errorCode cause previousState callback
  | work => s.performDispatched host work input.toOracle

/-- An event of the client: a call, or the run of the work at a position. -/
inductive Event where
  | call (call : Call)
  | run (index : Nat) (input : Input)

/-- Take the work at a position. -/
@[simps]
def takeTask (s : Client) (index : Nat) : Client := { s with tasks := s.tasks.eraseIdx index }

/-- One step of the client. -/
def step (host : Host) (s : Client) : Event → Option Client
  | .call call => some (s.call call)
  | .run index input =>
    match s.tasks[index]? with
    | none => none
    | some task => some ((s.takeTask index).perform host task input)

/-- A client without a token and without a default engine address, for concrete
runs. -/
def plain (config : ConfigClient) : Client :=
  make config (.error Error.Code.invalidConfiguration) (.ok none) (.ok none)

/-- A state of some run of some client, all of whose steps meet a condition. -/
def ReachableBy (host : Host) (good : Client → Event → Prop) (s : Client) : Prop :=
  ∃ config defaultServerAddress token mtlsToken,
    Library.Run (step host) good (make config defaultServerAddress token mtlsToken) s

/-- A state of some run of some client. -/
def Reachable (host : Host) (s : Client) : Prop := ReachableBy host Library.Any s

theorem ReachableBy.reachable {host : Host} {good : Client → Event → Prop} {s : Client}
    (reachable : ReachableBy host good s) : Reachable host s := by
  obtain ⟨config, defaultServerAddress, token, mtlsToken, run⟩ := reachable
  exact ⟨config, defaultServerAddress, token, mtlsToken, run.reaches⟩

end Client

end Rstream.IoRstrm
