import Rstream.IoRstrm.Client.Step

/-!
# What a step of the client can do

The handlers of the client are compositions of a few primitive changes of its
state: an operation is completed, stored or cleared, a message is queued, work is
started, the connection begins, opens or closes. `Effect` lists these changes with
the guards under which the source makes them, and the theorems of this module say
that every handler is a sequence of effects. An invariant then needs one case for
each effect, whatever the handler.

Effects are grouped by `Area`. A result about one area only, such as who may
change the socket, names the areas a handler stays in.

Storing an operation is guarded by `Storable`: the dispatched work that would
store the operation has been consumed and the operation is in no store yet.
Continuing a range connect is guarded by `Stamped`, the relation between the
stamps of a task and the present generation and connection. Both follow from the
invariant `WellFormed`, so they are available at the start of every step.
-/

namespace Rstream.IoRstrm

open Std (TreeMap)
open Relation (ReflTransGen)

/-! ## Vocabulary -/

/-- The position of an operation object among those of the client. -/
def OpId.index : OpId → Nat
  | .connect index | .createTunnel index | .acceptTunnel index => index

/-- The places where the client stores operations: `m_connect_op`, the entries of
`m_create_tunnel_ops`, and `m_accept_tunnel_op` of the entries of `m_tunnels`. -/
inductive Slot where
  | connect
  | create (requestId : String)
  | accept (tunnelId : String)
  deriving DecidableEq, Repr

/-- The work is the one a call dispatched to start this operation. -/
def Work.dispatches (op : OpId) : Work → Bool
  | .asyncConnectInternal index => op = .connect index
  | .asyncCreateTunnelInternal index => op = .createTunnel index
  | .asyncAcceptTunnelInternal _ index => op = .acceptTunnel index
  | _ => false

/-- The completion of the send queue's cancellation. -/
def Work.isQueueCancel : Work → Bool
  | .queueCancel _ _ _ => true
  | _ => false

/-- The work of a range connect, its report to `on_connect` included. -/
def Work.isRange : Work → Bool
  | .rangeSpawn _ | .rangeAttempt _ | .onConnect _ => true
  | _ => false

/-- The connect attempt of a stream. -/
def Work.isConnectStream : Work → Bool
  | .connectStream _ _ _ _ => true
  | _ => false

/-- Work that no store, counter or socket depends on. -/
def Work.isPlain : Work → Bool
  | .cancelConnect _ | .cancelCreateTunnel _ | .cancelAcceptTunnel _ _ | .closeTunnelInternal _
  | .closeInternal | .resolve | .rangeSpawn _ | .read | .stateTimer _ | .heartbeatTimer _ => true
  | _ => false

/-- Outputs that no store, counter or socket depends on. -/
def Output.isNotice : Output → Bool
  | .closePeer _ | .status _ => true
  | _ => false

/-- Outputs of the range connect. -/
def Output.isSocket : Output → Bool
  | .socketOpen _ | .socketConnect _ | .socketClose _ => true
  | _ => false

namespace Client

variable {host : Host}

/-- The number of dispatched pieces of work that will start an operation. -/
def dispatched (s : Client) (op : OpId) : Nat :=
  s.tasks.countP fun task => task.work.dispatches op

/-- `m_accept_tunnel_op` of a tunnel. -/
def acceptOn (s : Client) (tunnelId : String) : Option Nat :=
  s.tunnels[tunnelId]?.bind fun tunnel => tunnel.acceptOp

/-- The operation a slot holds. -/
def holds (s : Client) : Slot → Option OpId
  | .connect => s.connectOp.map .connect
  | .create requestId => s.createTunnelOps[requestId]?.map .createTunnel
  | .accept tunnelId => (s.acceptOn tunnelId).map .acceptTunnel

/-- The operation is in `m_connect_op`, in `m_create_tunnel_ops` or in some
tunnel's `m_accept_tunnel_op`. -/
def Stored (s : Client) (op : OpId) : Prop := ∃ slot, s.holds slot = some op

/-- An operation that may be stored: it exists, nothing is going to start it, and
no store holds it. -/
structure Storable (s : Client) (op : OpId) : Prop where
  allocated : op.index < s.nextOp
  consumed : s.dispatched op = 0
  absent : ¬s.Stored op

/-- A task's stamps are not ahead of the client, and a task of an earlier
connection also has an earlier generation. -/
structure Stamped (s : Client) (task : Task) : Prop where
  generation : task.generation ≤ s.generation
  connection : task.connection ≤ s.connection
  stale : task.connection < s.connection → task.generation < s.generation

/-- The parts of the client that effects belong to: the control connection, the
calls of the interface, the start of a connect or create operation, the opening of a
tunnel, proxied streams, the range connect, the end of a connection. -/
inductive Area where
  | control | calling | storing | opening | stream | range | ending
  deriving DecidableEq, Repr

/-- Complete an operation object and hand the outcome to its handler. -/
@[simps!]
def settle (s : Client) (op : OpId) (errorCode : ErrorCode) (value : Value) : Client :=
  (s.modifyOp op fun o => { o with completed := true, handler := false }).emit
    (.completed op errorCode value s.connection)

/-- A message that carries a token goes over a secure transport and carries the
token of the details in force. -/
def TokenConfined (host : Host) (s : Client) (message : Message) : Prop :=
  message.token.isSome → s.isSecure = true ∧ ∃ details,
    s.effectiveClientDetails host = .ok details ∧ message = .openControlChannelReq details

/-- One primitive change of the client. -/
inductive Effect (host : Host) : Area → Client → Client → Prop where
  | notice {s : Client} {output : Output} (plain : output.isNotice = true) :
      Effect host .control s (s.emit output)
  | start {s : Client} {work : Work} (plain : work.isPlain = true) :
      Effect host .control s (s.start work)
  | send {s : Client} {message : Message} {heartbeat : Bool} (running : s.state ≠ .null)
      (confined : TokenConfined host s message)
      (control : ∀ streamId error, message ≠ .proxyConnRsp streamId error) :
      Effect host .control s
        ((s.emit (.sent s.connection s.isSecure message)).start (.send heartbeat))
  | close {s : Client} (cause : ErrorCode) (stateChanges : Nat) (running : s.state ≠ .null)
      (first : s.closePending = false) :
      Effect host .control s
        (({ s with
            closePending := true, generation := s.generation + 1, state := .closing
            stateChanges := stateChanges } : Client).start
          (.queueCancel cause s.state s.controlCallbacks.onDisconnection))
  | fail {s : Client} {op : OpId} {errorCode : ErrorCode} {value : Value}
      (pending : (s.ops op).completed = false) (failed : errorCode.failed = true)
      (other : ∀ index, op ≠ .connect index) :
      Effect host .control s (s.settle op errorCode value)
  | failConnect {s : Client} {op : Nat} {errorCode : ErrorCode}
      (pending : (s.ops (.connect op)).completed = false) (failed : errorCode.failed = true) :
      Effect host .control s
        { s.settle (.connect op) errorCode .unit with
          connectOp := if s.connectOp = some op then none else s.connectOp }
  | begin {s : Client} {op : Nat} (idle : s.state = .null)
      (handler : (s.ops (.connect op)).handler = true)
      (reserved : (s.ops (.connect op)).reserved = true) (storable : s.Storable (.connect op)) :
      Effect host .storing s
        (({ s with
            generation := s.generation + 1, connection := s.connection + 1
            connectOp := some op } : Client).setState .connecting)
  | opened {s : Client} {op : Nat} (connecting : s.state = .connecting)
      (stored : s.connectOp = some op) (pending : (s.ops (.connect op)).completed = false) :
      Effect host .control s
        { (s.setState .connected).settle (.connect op) .none .unit with connectOp := none }
  | openedUnobserved {s : Client} (connecting : s.state = .connecting)
      (settled : ∀ op, s.connectOp = some op → (s.ops (.connect op)).completed = true) :
      Effect host .control s (s.setState .connected)
  | leave {s : Client} {errorCode : ErrorCode} (connected : s.state = .connected) :
      Effect host .control s { s.setState .closing with errorCode := errorCode }
  | status {s : Client} {status : Status} : Effect host .control s { s with status := status }
  | callbacks {s : Client} {callbacks : ControlCallbacks} (free : s.isStateNonNull = false) :
      Effect host .calling s { s with controlCallbacks := callbacks }
  | allocate {s : Client} {op : OpId} {arguments : Op → Op} (fresh : op.index = s.nextOp)
      (cancelled : ∀ o, (arguments o).cancelled = o.cancelled)
      (completed : ∀ o, (arguments o).completed = o.completed)
      (handler : ∀ o, (arguments o).handler = o.handler)
      (reserved : ∀ o, (arguments o).reserved = o.reserved) :
      Effect host .calling s (s.allocate op arguments)
  | reserve {s : Client} {address : Address} (free : s.isStateNonNull = false) :
      Effect host .calling s
        { s.allocate (.connect s.nextOp) (fun o => { o with reserved := true }) with
          isStateNonNull := true, serverAddress := address }
  | dispatch {s : Client} {op : OpId} {work : Work} (dispatches : work.dispatches op = true)
      (storable : s.Storable op) : Effect host .calling s (s.start work)
  | cancelled {s : Client} {op : OpId} (live : (s.ops op).live = true) :
      Effect host .calling s (s.modifyOp op fun o => { o with cancelled := true })
  | release {s : Client} {op : Nat} (idle : s.state = .null)
      (reserved : (s.ops (.connect op)).reserved = true)
      (pending : (s.ops (.connect op)).completed = false ∨ (s.ops (.connect op)).handler = true)
      (absent : s.connectOp ≠ some op) :
      Effect host .control s
        { s.modifyOp (.connect op) (fun o => { o with reserved := false }) with
          isStateNonNull := false, serverAddress := {} }
  | storeCreate {s : Client} {requestId : String} {op : Nat} (connected : s.state = .connected)
      (free : s.createTunnelOps[requestId]? = none)
      (handler : (s.ops (.createTunnel op)).handler = true)
      (storable : s.Storable (.createTunnel op)) :
      Effect host .storing s
        { s with createTunnelOps := s.createTunnelOps.insertIfNew requestId op }
  | eraseCreate {s : Client} {requestId : String}
      (settled : ∀ op, s.createTunnelOps[requestId]? = some op →
        (s.ops (.createTunnel op)).completed = true) :
      Effect host .control s { s with createTunnelOps := s.createTunnelOps.erase requestId }
  | markClosing {s : Client} (tunnelId : String) :
      Effect host .control s (s.modifyTunnel tunnelId fun t => { t with closing := true })
  | clearAccept {s : Client} {tunnelId : String}
      (settled : ∀ (tunnel : Tunnel) op, s.tunnels[tunnelId]? = some tunnel → tunnel.acceptOp = some op →
        (s.ops (.acceptTunnel op)).completed = true) :
      Effect host .control s (s.modifyTunnel tunnelId fun t => { t with acceptOp := none })
  | eraseTunnel {s : Client} {tunnelId : String}
      (settled : ∀ (tunnel : Tunnel) op, s.tunnels[tunnelId]? = some tunnel → tunnel.acceptOp = some op →
        (s.ops (.acceptTunnel op)).completed = true) :
      Effect host .control s { s with tunnels := s.tunnels.erase tunnelId }
  | fault {s : Client} : Effect host .opening s (s.emit .fault)
  | addTunnel {s : Client} {tunnelId : String} (running : s.state ≠ .null)
      (opened : s.state ≠ .connecting) :
      Effect host .opening s { s with tunnels := s.tunnels.insertIfNew tunnelId {} }
  | created {s : Client} {op : Nat} {errorCode : ErrorCode} {value : Value}
      (pending : (s.ops (.createTunnel op)).completed = false) :
      Effect host .opening s (s.settle (.createTunnel op) errorCode value)
  | request {s : Client} {streamId : String} {admitted : Bool} :
      Effect host .stream s (s.emit (.proxyRequest s.connection streamId admitted))
  | streams {s : Client} {tunnelId : String} {change : Tunnel → Tunnel}
      (kept : ∀ t, (change t).acceptOp = t.acceptOp) :
      Effect host .stream s (s.modifyTunnel tunnelId change)
  | peer {s : Client} {nextPeer : PeerId} : Effect host .stream s { s with nextPeer := nextPeer }
  | busy {s : Client} (op : Nat) (busy : Bool) :
      Effect host .stream s (s.modifyOp (.acceptTunnel op) fun o => { o with busy := busy })
  | connectStream {s : Client} {tunnelId streamId : String} {context : StreamContext}
      {peer : PeerId} {owner : Option Nat} :
      Effect host .stream s
        ((s.emit (.connectStream s.connection peer s.config.toConfig
            { idName := some streamId, serverAddress := s.streamAddress context,
              serverAddressFromUriParam := false, secret := context.secret,
              sourceIp := context.sourceIp } context.proxyEndpoint.isSome)).start
          (.connectStream tunnelId streamId peer owner))
  | respond {s : Client} {streamId : String} {error : Option WireError}
      (running : s.state ≠ .null) :
      Effect host .stream s
        ((s.emit (.sent s.connection s.isSecure (.proxyConnRsp streamId error))).start
          (.send false))
  | storeAccept {s : Client} {tunnelId : String} {op : Nat} (connected : s.state = .connected)
      (free : ∀ tunnel : Tunnel, s.tunnels[tunnelId]? = some tunnel → tunnel.acceptOp = none)
      (storable : s.Storable (.acceptTunnel op)) :
      Effect host .stream s (s.modifyTunnel tunnelId fun t => { t with acceptOp := some op })
  | handed {s : Client} {tunnelId : String} {change : Tunnel → Tunnel}
      (clears : ∀ t, (change t).acceptOp = none)
      (settled : ∀ (tunnel : Tunnel) op, s.tunnels[tunnelId]? = some tunnel →
        tunnel.acceptOp = some op → (s.ops (.acceptTunnel op)).completed = true) :
      Effect host .stream s (s.modifyTunnel tunnelId change)
  | accepted {s : Client} {op : Nat} {value : Value}
      (pending : (s.ops (.acceptTunnel op)).completed = false) :
      Effect host .stream s (s.settle (.acceptTunnel op) .none value)
  | streamConnected {s : Client} {connection : Nat} {streamId : String} {peer : PeerId}
      {owner : Option Nat} :
      Effect host .stream s (s.emit (.streamConnected connection streamId peer owner))
  | socket {s : Client} {socket : Option Transport} :
      Effect host .range s { s with socket := socket }
  | socketOutput {s : Client} {output : Output} (socket : output.isSocket = true) :
      Effect host .range s (s.emit output)
  | resume {s : Client} {task : Task} {work : Work} (stamped : s.Stamped task)
      (range : work.isRange = true) : Effect host .range s (s.resume task work)
  | reset {s : Client} (pending : s.closePending = true) : Effect host .ending s s.reset
  | dropConnect {s : Client}
      (settled : ∀ op, s.connectOp = some op → (s.ops (.connect op)).completed = true) :
      Effect host .ending s { s with connectOp := none }
  | disconnection {s : Client} {errorCode : ErrorCode} :
      Effect host .ending s (s.emit (.disconnection errorCode))

/-- Finitely many effects, all in the given areas. -/
def Effects (host : Host) (areas : List Area) : Client → Client → Prop :=
  ReflTransGen fun s t => ∃ area ∈ areas, Effect host area s t

namespace Effects

variable {areas more : List Area} {s t u : Client}

theorem refl : Effects host areas s s := ReflTransGen.refl

theorem trans (first : Effects host areas s t) (second : Effects host areas t u) :
    Effects host areas s u := ReflTransGen.trans first second

theorem mono (effects : Effects host areas s t) (subset : areas ⊆ more) :
    Effects host more s t := by
  induction effects with
  | refl => exact ReflTransGen.refl
  | tail _ effect ih =>
    obtain ⟨area, mem, effect⟩ := effect
    exact ReflTransGen.tail ih ⟨area, subset mem, effect⟩

/-- One effect, as a sequence in its own area. -/
theorem single {area : Area} (effect : Effect host area s t) : Effects host [area] s t :=
  ReflTransGen.single ⟨area, List.mem_singleton.mpr rfl, effect⟩

/-- **The invariant rule.** What every effect of the areas keeps, a sequence of
them keeps. -/
theorem invariant {p : Client → Prop} (effects : Effects host areas s t)
    (kept : ∀ {area s t}, area ∈ areas → Effect host area s t → p s → p t)
    (initially : p s) : p t := by
  induction effects with
  | refl => exact initially
  | tail _ effect ih =>
    obtain ⟨area, mem, effect⟩ := effect
    exact kept mem effect ih

end Effects

end Client

end Rstream.IoRstrm
