import Rstream.Library.Chains
import Rstream.IoRstrm.Acceptor.Handlers

/-!
# What a handler of the acceptor can do

As for the client, the handlers of the acceptor are compositions of a few
primitive changes of its state, with the guards under which the source makes
them. The areas separate the changes that keep `m_state` (`calling`, `quiet`,
`tunnel`) from those that move it: the start from `state::null`, the begin of a
connection, the close, and the reactions to the client.
-/

namespace Rstream.IoRstrm

/-- Outputs that no invariant of the acceptor depends on. -/
def AcceptorOutput.isNotice : AcceptorOutput → Bool
  | .cancelAccept _ _ | .closeClient _ | .status _ | .tunnelProperties _ | .fault => true
  | _ => false

namespace Acceptor

open Library (Chain)

/-- The number of dispatched pieces of work that will start an accept operation. -/
def dispatched (s : Acceptor) (op : Nat) : Nat :=
  s.tasks.countP fun work => work = .asyncAcceptInternal op

/-- An accept operation whose start runs now: nothing else is going to start it, it
is not stored, nothing was asked of a client for it, and it is completed only if it
was cancelled and holds no reservation. -/
structure Ready (s : Acceptor) (op : Nat) : Prop where
  allocated : op < s.nextOp
  consumed : s.dispatched op = 0
  absent : s.acceptOp ≠ some op
  unrequested : ∀ request ∈ s.requests, request.kind ≠ .accept op
  open' : (s.ops op).completed = true →
    (s.ops op).cancelled = true ∧ (s.ops op).reserved = false

/-- Why an operation leaves `m_accept_op` while the acceptor stays open. -/
inductive Cause where
  | accepted | cancelled
  deriving DecidableEq, Repr

/-- The parts of the acceptor that effects belong to. -/
inductive Area where
  | calling | quiet | accepted | starting | beginning | closing | turning | tunnel
  deriving DecidableEq, Repr

/-- What the cause of leaving `m_accept_op` says about the operation and its error
code. -/
def Cause.Explains (s : Acceptor) (op : Nat) (errorCode : ErrorCode) : Cause → Prop
  | .accepted => errorCode.failed = false
  | .cancelled => (s.ops op).cancelled = true ∧ errorCode = .operationAborted

/-- The area in which an operation leaves `m_accept_op`. -/
def Cause.area : Cause → Area
  | .accepted => .accepted
  | .cancelled => .quiet

/-- What `on_close` does apart from the pending accept operation and the client. -/
@[simps]
def cleared (s : Acceptor) (errorCode : ErrorCode) : Acceptor :=
  { s with
    state := .null, closing := false, tunnel := none, status := {}, timerArmed := false
    client := none, localEndpoint := none, isStateNonNull := false, startPending := false
    controlCallbacks := {}, log := s.log ++ [.closed errorCode] }

/-- One primitive change of the acceptor. -/
inductive Effect : Area → Acceptor → Acceptor → Prop where
  | notice {s : Acceptor} {output : AcceptorOutput} (plain : output.isNotice = true) :
      Effect .quiet s (s.emit output)
  | status {s : Acceptor} {status : StatusExtd} {serverStatus : Status} :
      Effect .quiet s { s with status := status, serverStatus := serverStatus }
  | settle {s : Acceptor} {op : Nat} {errorCode : ErrorCode} (absent : s.acceptOp ≠ some op)
      (known : s.dispatched op = 0 ∨ (s.ops op).cancelled = true ∧ (s.ops op).reserved = false)
      (allocated : op < s.nextOp) :
      Effect .quiet s (s.completeAccept op errorCode)
  | finish {s : Acceptor} {op : Nat} {errorCode : ErrorCode} (cause : Cause)
      (stored : s.acceptOp = some op) (idle : (s.ops op).accepting = false)
      (explains : cause.Explains s op errorCode) :
      Effect cause.area s (({ s with acceptOp := none } : Acceptor).completeAccept op errorCode)
  | release {s : Acceptor} {op : Nat} (null : s.state = .null)
      (reserved : (s.ops op).reserved = true) (pending : (s.ops op).completed = false)
      (absent : s.acceptOp ≠ some op) (starting : s.startPending = true) :
      Effect .quiet s
        { s.modifyOp op (fun o => { o with reserved := false }) with
          startPending := false, isStateNonNull := false }
  | store {s : Acceptor} {op : Nat} (running : s.state ≠ .null) (free : s.acceptOp = none)
      (ready : s.Ready op) (uncancelled : (s.ops op).cancelled = false) :
      Effect .quiet s { s with acceptOp := some op }
  | accept {s : Acceptor} {op : Nat} {tunnel : TunnelHandle} (connected : s.state = .connected)
      (stored : s.acceptOp = some op) (idle : (s.ops op).accepting = false)
      (held : s.tunnel = some tunnel) :
      Effect .quiet s
        ((s.modifyOp op fun o =>
          { o with
            accepting := true
            bound := some (tunnel.client, s.operations tunnel.client) }).ask tunnel.client
          (.accept op) (.acceptTunnel tunnel.client tunnel.id (s.ops op).peer))
  | start {s : Acceptor} {op : Nat} (null : s.state = .null) (free : s.acceptOp = none)
      (ready : s.Ready op) (uncancelled : (s.ops op).cancelled = false)
      (reserved : (s.ops op).reserved = true) :
      Effect .starting s
        (({ s with
            startPending := false, endpoint := (s.ops op).initialEndpoint, state := .idle
            client := some s.clients, clients := s.clients + 1, acceptOp := some op } :
          Acceptor).emit (.makeClient s.settings.config))
  | begin {s : Acceptor} {client : Nat} (idle : s.state = .idle)
      (attached : s.client = some client) :
      Effect .beginning s
        (({ s with state := .connecting, connection := s.connection + 1 } : Acceptor).ask client
          .connect (.connect client s.endpoint.serverAddress))
  | close {s : Acceptor} {errorCode : ErrorCode} (running : s.state ≠ .null) :
      Effect .closing s ((s.cleared errorCode).dropAccept errorCode)
  | opened {s : Acceptor} (connecting : s.state = .connecting) :
      Effect .turning s { s with state := .connected }
  | failed {s : Acceptor} (connecting : s.state = .connecting) :
      Effect .turning s { s with state := .idle }
  | disconnected {s : Acceptor} (connected : s.state = .connected) :
      Effect .turning s { s with state := .idle, tunnel := none, timerArmed := false }
  | rearm {s : Acceptor} (idle : s.state = .idle) : Effect .turning s s.armTimer
  | recreate {s : Acceptor} (connected : s.state = .connected) : Effect .tunnel s s.armTimer
  | create {s : Acceptor} {client : Nat} {generated : Option String}
      {properties : TunnelProperties} (connected : s.state = .connected)
      (attached : s.client = some client) :
      Effect .tunnel s
        (({ s with generatedStableDomain := generated } : Acceptor).ask client .create
          (.createTunnel client properties s.connection s.tunnel s.outstandingCreates))
  | hold {s : Acceptor} {tunnel : TunnelHandle} (connected : s.state = .connected) :
      Effect .tunnel s { s with tunnel := some tunnel }
  | drop {s : Acceptor} (connected : s.state = .connected) :
      Effect .tunnel s { s with tunnel := none }
  | callbacks {s : Acceptor} {callbacks : AcceptorCallbacks} (free : s.isStateNonNull = false) :
      Effect .calling s { s with controlCallbacks := callbacks }
  | settings {s : Acceptor} {settings : SettingsAcceptor} (free : s.isStateNonNull = false) :
      Effect .calling s { s with settings := settings }
  | bind {s : Acceptor} {endpoint : Endpoint} (free : s.isStateNonNull = false) :
      Effect .calling s { s with localEndpoint := some endpoint }
  | closing {s : Acceptor} {closing : Bool} : Effect .calling s { s with closing := closing }
  | cancelled {s : Acceptor} {op : Nat} (live : (s.ops op).live = true) :
      Effect .calling s (s.modifyOp op fun o => { o with cancelled := true })
  | allocate {s : Acceptor} {change : AcceptOp → AcceptOp}
      (cancelled : ∀ o, (change o).cancelled = o.cancelled)
      (completed : ∀ o, (change o).completed = o.completed)
      (accepting : ∀ o, (change o).accepting = o.accepting)
      (reserved : ∀ o, (change o).reserved = o.reserved) :
      Effect .calling s { s.modifyOp s.nextOp change with nextOp := s.nextOp + 1 }
  | reserve {s : Acceptor} {peer : PeerId} {endpoint : Endpoint} (free : s.isStateNonNull = false)
      (idle : s.startPending = false) (bound : s.localEndpoint = some endpoint)
      (origin : endpoint.serverAddressFromUriParam = true → s.settings.config.noToken = true ∨
        s.settings.config.tokenFromUriParam = true) :
      Effect .calling s
        { s.modifyOp s.nextOp (fun o =>
            { o with
              initialEndpoint := endpoint, reserved := true, live := true, peer := peer }) with
          nextOp := s.nextOp + 1, isStateNonNull := true, startPending := true }
  | dispatch {s : Acceptor} {work : AcceptorWork}
      (ready : ∀ op, work = .asyncAcceptInternal op → s.Ready op) :
      Effect .calling s { s with tasks := s.tasks ++ [work] }

/-- Finitely many effects, all in the given areas. -/
abbrev Effects : List Area → Acceptor → Acceptor → Prop := Chain Effect

variable {s t : Acceptor}

/-! ## Closing -/

theorem closeClient_effects (s : Acceptor) : Effects [.quiet] s s.closeClient := by
  unfold closeClient
  split
  · exact .single (.notice rfl) (by simp)
  · exact .single (.notice rfl) (by simp)

/-- `on_close`, with the call on the client made first. -/
theorem onClose_eq (running : s.state ≠ .null) (errorCode : ErrorCode) :
    s.onClose errorCode = (s.closeClient.cleared errorCode).dropAccept errorCode := by
  rw [onClose, if_neg running]
  simp only [closeClient, cancelTimer_client]
  cases s.client with
  | none | some client => rfl

theorem dropAccept_eq {op : Nat} (stored : s.acceptOp = some op) (errorCode : ErrorCode) :
    s.dropAccept errorCode = ({ s with acceptOp := none } : Acceptor).completeAccept op
      (errorCode.orElse Error.Code.operationAborted) := by
  simp only [dropAccept, stored, completeAccept]
  split
  · rfl
  · rfl

theorem closeClient_state (s : Acceptor) : s.closeClient.state = s.state := by
  rw [closeClient]
  cases s.client with
  | none | some client => rfl

theorem onClose_effects (s : Acceptor) (errorCode : ErrorCode) :
    Effects [.quiet, .closing] s (s.onClose errorCode) := by
  by_cases null : s.state = .null
  · rw [onClose, if_pos null]
    exact .refl
  · have announced : Effects [.quiet, .closing] s s.closeClient :=
      (closeClient_effects s).mono (by simp)
    have running : s.closeClient.state ≠ .null := by
      rw [closeClient_state]
      exact null
    rw [onClose_eq null]
    exact announced.trans (.single (.close running) (by simp))

theorem onError_effects (s : Acceptor) (errorCode : ErrorCode) :
    Effects [.quiet, .closing] s (s.onError errorCode) := by
  unfold onError
  split
  · exact onClose_effects s errorCode
  · exact .refl

end Acceptor

end Rstream.IoRstrm
