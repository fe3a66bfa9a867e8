import Mathlib.Logic.Function.Basic
import Mathlib.Tactic.Simps.Basic
import Std.Data.TreeMap
import Rstream.IoRstrm.Message

/-!
# The control-channel client: its state

`client::impl` runs its handlers on a strand, one at a time. The state here is
what those handlers read and write, together with what the strand does not own
but the handlers leave behind: the work that has been started and has not yet
reported back (`tasks`), and the effects on the outside, in order (`log`).

Three components are bookkeeping of the model. `connection` counts the
connections begun so far, and a task or an output is stamped with the
connection it belongs to. `stateChanges` counts the calls of `set_state`: the
timers listen to the state signal and are disarmed by the next change of state,
so a timer armed at one count is live exactly while the count is the same.
`ops` is the heap of operation objects, which the source holds by shared
pointers.
-/

namespace Rstream.IoRstrm

open Std (TreeMap)

/-- The identity of an operation object: which of the three operation types it
has, and which of its objects it is. -/
inductive OpId where
  | connect (index : Nat)
  | createTunnel (index : Nat)
  | acceptTunnel (index : Nat)
  deriving DecidableEq, Repr

/-- The identity of a socket object. -/
abbrev PeerId := Nat

/-- `client::impl::state`. -/
inductive ClientState where
  | null | connecting | connected | closing
  deriving DecidableEq, Repr

/-- `connect_op_type`, `create_tunnel_op_type` and `accept_tunnel_op_type`. The
first three fields are common; `reserved` belongs to a connect, `properties` to a
create, `busy`, `peer` and `tunnelId` to an accept. The tunnel id is the one the
cancellation handler of the accept captured. The heap of operation objects is
total: an object that does not exist yet has the initial flags and is not
`live`. -/
structure Op where
  live : Bool := false
  cancelled : Bool := false
  completed : Bool := false
  handler : Bool := true
  reserved : Bool := false
  properties : TunnelProperties := {}
  busy : Bool := false
  peer : PeerId := 0
  tunnelId : String := ""
  deriving DecidableEq, Repr

/-- `stream_type::context`. -/
structure StreamContext where
  secret : Option String := none
  sourceIp : Option IpAddress := none
  proxyEndpoint : Option Address := none
  deriving DecidableEq, Repr

/-- `stream_type`: a stream with a socket of its own. -/
structure Stream where
  connected : Bool := false
  peer : PeerId
  deriving DecidableEq, Repr

structure Container where
  ptr : Option Stream
  context : StreamContext
  deriving DecidableEq, Repr

/-- `tunnel_type`. -/
structure Tunnel where
  closing : Bool := false
  acceptOp : Option Nat := none
  streams : TreeMap String Container := ∅

/-- `client::control_callbacks`: which callbacks are installed. -/
structure ControlCallbacks where
  onDisconnection : Bool := false
  onStatus : Bool := false
  deriving DecidableEq, Repr

/-- An endpoint the resolver returned: whether its URL asks for TLS, and the
error of `stream_socket::impl::init` for it, if any. -/
structure ResolvedEndpoint where
  ssl : Bool := false
  init : ErrorCode := .none
  deriving DecidableEq, Repr

/-- The transport that `m_socket` holds: whether it is secure, and the connection
whose range connect created it. -/
structure Transport where
  secure : Bool
  connection : Nat
  deriving DecidableEq, Repr

/-- Work that has been started and has not run yet. The first group was
dispatched to the strand by a call; the second waits for the resolver, the range
connect, the transport, a stream socket, a timer or the send queue. -/
inductive Work where
  | asyncConnectInternal (op : Nat)
  | asyncCreateTunnelInternal (op : Nat)
  | asyncAcceptTunnelInternal (tunnelId : String) (op : Nat)
  | cancelConnect (op : Nat)
  | cancelCreateTunnel (op : Nat)
  | cancelAcceptTunnel (tunnelId : String) (op : Nat)
  | closeTunnelInternal (tunnelId : String)
  | closeInternal
  | resolve
  | rangeSpawn (endpoints : List ResolvedEndpoint)
  | rangeAttempt (rest : List ResolvedEndpoint)
  | onConnect (errorCode : ErrorCode)
  | read
  | send (heartbeat : Bool)
  | connectStream (tunnelId streamId : String) (peer : PeerId) (owner : Option Nat)
  | stateTimer (stateChanges : Nat)
  | heartbeatTimer (stateChanges : Nat)
  | queueCancel (cause : ErrorCode) (previousState : ClientState) (callback : Bool)
  deriving DecidableEq, Repr

/-- Started work, with the value of `m_generation` its handler captured and the
connection during which it was started. -/
structure Task where
  generation : Nat
  connection : Nat
  work : Work
  deriving DecidableEq, Repr

/-- What a completion handler receives besides the error code: the tunnel of a
create, the endpoint and the socket of an accept. -/
inductive Value where
  | unit
  | tunnel (id : String) (properties : TunnelProperties)
  | accepted (endpoint : Endpoint) (peer : PeerId)
  deriving DecidableEq, Repr

/-- What the client does to the outside, or decides about a proxy request. -/
inductive Output where
  /-- The completion handler of an operation is invoked. -/
  | completed (op : OpId) (errorCode : ErrorCode) (value : Value) (connection : Nat)
  /-- A message is handed to the send queue over a transport that does or does
  not report `is_secure`. -/
  | sent (connection : Nat) (secure : Bool) (message : Message)
  /-- A socket is given its settings and starts to connect for a stream. -/
  | connectStream (connection : Nat) (peer : PeerId) (config : Config) (endpoint : Endpoint)
      (proxied : Bool)
  /-- The connect attempt of a socket for a stream reported success. -/
  | streamConnected (connection : Nat) (streamId : String) (peer : PeerId) (owner : Option Nat)
  | closePeer (peer : PeerId)
  /-- A proxy request arrived and was admitted or rejected. -/
  | proxyRequest (connection : Nat) (streamId : String) (admitted : Bool)
  | status (status : Status)
  | disconnection (errorCode : ErrorCode)
  /-- The range connect of a connection opens, connects or closes `m_socket`. -/
  | socketOpen (connection : Nat)
  | socketConnect (connection : Nat)
  | socketClose (connection : Nat)
  /-- An absent optional is dereferenced. -/
  | fault
  deriving DecidableEq, Repr

/-- `client::impl`. -/
structure Client where
  config : ConfigClient
  defaultServerAddress : Except ErrorCode Address
  token : Except ErrorCode (Option String)
  mtlsToken : Except ErrorCode (Option String)
  state : ClientState := .null
  generation : Nat := 0
  isStateNonNull : Bool := false
  closePending : Bool := false
  serverAddress : Address := {}
  controlCallbacks : ControlCallbacks := {}
  connectOp : Option Nat := none
  createTunnelOps : TreeMap String Nat := ∅
  tunnels : TreeMap String Tunnel := ∅
  errorCode : ErrorCode := .none
  status : Status := {}
  socket : Option Transport := none
  ops : OpId → Op := fun _ => {}
  nextOp : Nat := 0
  nextPeer : PeerId := 0
  stateChanges : Nat := 0
  connection : Nat := 0
  tasks : List Task := []
  log : List Output := []

/-- What the client takes from its surroundings: the address parser of Boost.URL,
the message serialiser, the texts of error codes, and the build's identity. -/
structure Host where
  makeAddress : String → Option Address
  serializes : Message → Bool
  message : ErrorCode → String
  identity : ClientDetails

/-- Surroundings that parse no address and serialise every message, for concrete
runs. -/
def Host.plain : Host :=
  { makeAddress := fun _ => none, serializes := fun _ => true, message := fun _ => ""
    identity := {} }

/-- `get_client_details(token)`. -/
def getClientDetails (host : Host) (token : Option String) : ClientDetails :=
  { host.identity with token := token }

namespace Client

/-- The state the constructor leaves: the configuration, the default engine
address and the two tokens are fixed by then, everything else is initial. -/
def make (config : ConfigClient) (defaultServerAddress : Except ErrorCode Address)
    (token mtlsToken : Except ErrorCode (Option String)) : Client :=
  { config, defaultServerAddress, token, mtlsToken }

/-- Record an effect. -/
@[simps]
def emit (s : Client) (output : Output) : Client := { s with log := s.log ++ [output] }

/-- Start work whose handler captures the current generation. -/
@[simps]
def start (s : Client) (work : Work) : Client :=
  { s with tasks := s.tasks ++ [⟨s.generation, s.connection, work⟩] }

/-- Continue the work of a task under the generation it captured. -/
@[simps]
def resume (s : Client) (task : Task) (work : Work) : Client :=
  { s with tasks := s.tasks ++ [{ task with work := work }] }

/-- Change an operation object. -/
@[simps]
def modifyOp (s : Client) (op : OpId) (f : Op → Op) : Client :=
  { s with ops := Function.update s.ops op (f (s.ops op)) }

/-- Change a tunnel in place. -/
@[simps]
def modifyTunnel (s : Client) (tunnelId : String) (f : Tunnel → Tunnel) : Client :=
  { s with tunnels := s.tunnels.modify tunnelId f }

/-- `m_socket.is_secure()`. -/
def isSecure (s : Client) : Bool := s.socket.any (·.secure)

end Client

end Rstream.IoRstrm
