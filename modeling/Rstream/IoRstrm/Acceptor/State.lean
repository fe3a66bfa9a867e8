import Rstream.IoRstrm.Client.Step

/-!
# The acceptor: its state

`acceptor::impl` keeps a client connected to the engine, keeps a tunnel open on
that connection and hands the streams of the tunnel to its accept operations.
Its handlers run on a strand of their own. The state here is what they read and
write, what has been posted to the strand (`tasks`), the waits of `m_timer`, and
the operations the acceptor has started on its clients and whose completion
handlers have not run yet (`requests`).

A wait of the timer that is cancelled, by `cancel` or by a later
`expires_after`, runs its callback with an error and the callback does nothing;
such a wait is dropped. A wait that has expired can no longer be cancelled: its
callback is queued on the strand and will run. So at most one wait is armed
(`timerArmed`), and `timerExpired` counts the callbacks that are queued.

A client is named by its position among the clients the acceptor has made, and
an operation of a client by its position among the operations started on it.
`connection` counts the connections the acceptor has begun, and a request is
stamped with the connection during which it was made.
-/

namespace Rstream.IoRstrm

/-- `settings_acceptor`, without the durations of the timer. -/
structure SettingsAcceptor where
  config : ConfigClient := {}
  autoReconnect : Bool := true
  autoRecreateTunnel : Bool := true
  tunnelProperties : TunnelProperties := {}
  deriving DecidableEq, Repr

structure StatusExtd extends Status where
  text : Option String := none
  tunnelId : Option String := none
  forwarding : Option String := none
  deriving DecidableEq, Repr

/-- `acceptor::control_callbacks`: which callbacks are installed. -/
structure AcceptorCallbacks where
  onStatus : Bool := false
  onTunnelProperties : Bool := false
  deriving DecidableEq, Repr

/-- `acceptor::impl::state`. -/
inductive AcceptorState where
  | null | idle | connecting | connected
  deriving DecidableEq, Repr

/-- `acceptor::impl::accept_op`. `bound` is the accept operation of a client that
the slot of `m_cancellation` was last bound to. -/
structure AcceptOp where
  live : Bool := false
  cancelled : Bool := false
  completed : Bool := false
  accepting : Bool := false
  reserved : Bool := false
  initiationError : ErrorCode := .none
  initialEndpoint : Endpoint := {}
  peer : PeerId := 0
  bound : Option (Nat × Nat) := none
  deriving DecidableEq, Repr

/-- A `tunnel` object: the client that opened it, and its id. -/
structure TunnelHandle where
  client : Nat
  id : String
  deriving DecidableEq, Repr

/-- What an operation that was started on a client is for. -/
inductive RequestKind where
  | connect
  | create
  | accept (op : Nat)
  deriving DecidableEq, Repr

/-- An operation that the acceptor started on a client. -/
structure Request where
  client : Nat
  index : Nat
  connection : Nat
  kind : RequestKind
  deriving DecidableEq, Repr

/-- The operation object of the client. -/
def Request.opId (request : Request) : OpId :=
  match request.kind with
  | .connect => .connect request.index
  | .create => .createTunnel request.index
  | .accept _ => .acceptTunnel request.index

/-- Work that a call dispatched to the strand. -/
inductive AcceptorWork where
  | asyncAcceptInternal (op : Nat)
  | cancelAccept (op : Nat)
  | closeInternal
  deriving DecidableEq, Repr

/-- What the acceptor does to the outside. -/
inductive AcceptorOutput where
  /-- A client is made with a configuration. -/
  | makeClient (config : ConfigClient)
  /-- The control callbacks are installed on a client, and it is asked to connect. -/
  | connect (client : Nat) (address : Address)
  /-- A client is asked for a tunnel. The rest is the state of `do_create_tunnel` at
  that moment: the present connection, what `m_tunnel` holds, and the create requests
  of this connection that are outstanding. -/
  | createTunnel (client : Nat) (properties : TunnelProperties) (connection : Nat)
      (tunnel : Option TunnelHandle) (outstanding : List Request)
  | acceptTunnel (client : Nat) (tunnelId : String) (peer : PeerId)
  | cancelAccept (client : Nat) (index : Nat)
  | closeClient (client : Nat)
  /-- The acceptor closes, by `on_close`. -/
  | closed (errorCode : ErrorCode)
  /-- The completion handler of an accept operation is invoked. -/
  | completed (op : Nat) (errorCode : ErrorCode)
  | status (status : StatusExtd)
  | tunnelProperties (properties : TunnelProperties)
  /-- A null pointer is dereferenced. -/
  | fault
  deriving DecidableEq, Repr

/-- `acceptor::impl`. -/
structure Acceptor where
  settings : SettingsAcceptor := {}
  state : AcceptorState := .null
  closing : Bool := false
  timerArmed : Bool := false
  timerExpired : Nat := 0
  client : Option Nat := none
  tunnel : Option TunnelHandle := none
  endpoint : Endpoint := {}
  acceptOp : Option Nat := none
  isStateNonNull : Bool := false
  startPending : Bool := false
  controlCallbacks : AcceptorCallbacks := {}
  localEndpoint : Option Endpoint := none
  generatedStableDomain : Option String := none
  serverStatus : Status := {}
  status : StatusExtd := {}
  ops : Nat → AcceptOp := fun _ => {}
  nextOp : Nat := 0
  tasks : List AcceptorWork := []
  clients : Nat := 0
  operations : Nat → Nat := fun _ => 0
  connection : Nat := 0
  requests : List Request := []
  log : List AcceptorOutput := []

namespace Acceptor

/-- Record an effect. -/
@[simps]
def emit (s : Acceptor) (output : AcceptorOutput) : Acceptor :=
  { s with log := s.log ++ [output] }

/-- Change an accept operation. -/
@[simps]
def modifyOp (s : Acceptor) (op : Nat) (f : AcceptOp → AcceptOp) : Acceptor :=
  { s with ops := Function.update s.ops op (f (s.ops op)) }

/-- Start an operation on a client. -/
@[simps]
def ask (s : Acceptor) (client : Nat) (kind : RequestKind) (output : AcceptorOutput) :
    Acceptor :=
  { s with
    requests := s.requests ++ [⟨client, s.operations client, s.connection, kind⟩]
    operations := Function.update s.operations client (s.operations client + 1)
    log := s.log ++ [output] }

/-- The waits of the timer whose callbacks may still run. -/
def waits (s : Acceptor) : Nat := s.timerExpired + if s.timerArmed then 1 else 0

/-- `m_timer.cancel()`. -/
@[simps]
def cancelTimer (s : Acceptor) : Acceptor := { s with timerArmed := false }

/-- `m_timer.expires_after` and `m_timer.async_wait`: the wait that was armed, if
any, is cancelled. -/
@[simps]
def armTimer (s : Acceptor) : Acceptor := { s with timerArmed := true }

/-- The create requests of the present connection that are outstanding. -/
def outstandingCreates (s : Acceptor) : List Request :=
  s.requests.filter fun request => request.kind = .create && request.connection = s.connection

end Acceptor

end Rstream.IoRstrm
