import Mathlib.Data.List.Sort
import Mathlib.Data.String.Basic
import Rstream.IoRstrm.Error
import Rstream.Library.Runs

/-!
# The TLS acceptor

`acceptor_ssl::impl` accepts connections of the next layer, runs the server side of the
TLS handshake on them and hands them to its callers. A connection has an entry in
`m_async_accept_upstream_ops` from the call of `async_accept` of the next layer on until
it is handed over, and the calls of `async_accept` of the acceptor itself meet the
connections in `m_async_accept_downstream_op`, which holds at most one of them.

The handlers run on a strand. Around them the model keeps the accepts of the next layer
that were started and whose completion handlers have not run on the strand
(`nextAccepts`) and the handshakes in flight (`handshakes`). An accept of the next layer
is an `async_accept_operation`, which holds references to `m_peer` and `m_endpoint` of
its entry: the accept finishes in the operating system, then `complete` writes through
the references and posts `on_accept`, and then `on_accept` runs.

An entry is a cell that only the map owns. A write of `complete` through references to an
entry that was erased is counted in `strayWrites`. The ids that `object_id` returns come
with the events; they are taken to be new.
-/

namespace Rstream.Io.Ssl

open IoRstrm

namespace Error

inductive Code where
  | success | genericError | invalidArgument | operationAborted | operationInProgress
  | sslConfigurationError | uninitializedObject
  deriving DecidableEq, Repr

/-- The integer of a code. -/
def Code.toInt : Code → Int
  | .success => 0
  | .genericError => 1
  | .invalidArgument => 2
  | .operationAborted => 3
  | .operationInProgress => 4
  | .sslConfigurationError => 5
  | .uninitializedObject => 6

/-- `make_error_code`. -/
def Code.toErrorCode (code : Code) : ErrorCode :=
  ⟨code.toInt, .other "rstream::io::detail::stream::error::category"⟩

instance : Coe Code ErrorCode := ⟨Code.toErrorCode⟩

end Error

/-- `async_accept_upstream_op_type` with its id. A socket of the next layer is named by
its position among the sockets the next layer has accepted. -/
structure UpstreamOp where
  id : String
  connected : Bool := false
  peer : Option Nat := none
  endpoint : Option String := none
  deriving DecidableEq, Repr

/-- How far an accept of the next layer is. -/
inductive AcceptStage where
  /-- The operating system has not finished it. -/
  | waiting
  /-- A connection was accepted, `complete` has not run. -/
  | accepted (socket : Nat) (endpoint : String)
  /-- The accept failed, `complete` has not run. -/
  | failed (errorCode : ErrorCode)
  /-- `complete` has run and posted `on_accept`. -/
  | posted (cause : ErrorCode)
  deriving DecidableEq, Repr

/-- An `async_accept_operation` on behalf of an entry, with the `on_accept` it ends in. -/
structure NextAccept where
  id : String
  stage : AcceptStage := .waiting
  deriving DecidableEq, Repr

/-- `async_handshake` of the socket of an entry. -/
structure Handshake where
  id : String
  socket : Nat
  deriving DecidableEq, Repr

/-- A completion handler of an accept with what it is invoked with, and the socket and the
endpoint that were stored for it. -/
structure Invocation where
  op : Nat
  errorCode : ErrorCode
  peer : Option Nat := none
  endpoint : Option String := none
  deriving DecidableEq, Repr

/-- `g_max_ongoing_upstream_ops`. -/
def maxOngoingUpstreamOpsDefault : Nat := 10

/-- `acceptor_ssl::impl` and what is in flight around it. The calls of `async_accept` are
numbered in their order. -/
structure Acceptor where
  /-- `m_config.m_max_ongoing_upstream_ops`. -/
  maxOngoingUpstreamOps : Option Nat := none
  ongoingAcceptOp : Bool := false
  closed : Bool := false
  downstreamOp : Option Nat := none
  upstreamOps : List UpstreamOp := []
  nextAccepts : List NextAccept := []
  handshakes : List Handshake := []
  /-- The ids that were given to entries. -/
  ids : List String := []
  /-- The number of calls of `async_accept`. -/
  calls : Nat := 0
  /-- The number of sockets the next layer has accepted. -/
  sockets : Nat := 0
  /-- The sockets whose handshake completed without an error. -/
  handshaken : List Nat := []
  invoked : List Invocation := []
  strayWrites : Nat := 0
  deriving DecidableEq

namespace Acceptor

/-- The bound on the entries, zero for none. -/
def limit (s : Acceptor) : Nat := s.maxOngoingUpstreamOps.getD maxOngoingUpstreamOpsDefault

/-- `invoke_completion_handler`. -/
def invoke (invocation : Invocation) (s : Acceptor) : Acceptor :=
  { s with invoked := s.invoked ++ [invocation] }

/-- An entry is erased. -/
def eraseOp (id : String) (s : Acceptor) : Acceptor :=
  { s with upstreamOps := s.upstreamOps.filter fun op => op.id ≠ id }

/-- The entry of an id is changed. -/
def modifyOp (id : String) (change : UpstreamOp → UpstreamOp) (s : Acceptor) : Acceptor :=
  { s with upstreamOps := s.upstreamOps.map fun op => if op.id = id then change op else op }

/-- `do_accept`; the entry is inserted in the order of the ids. -/
def doAccept (id : String) (s : Acceptor) : Acceptor :=
  if s.ongoingAcceptOp then s
  else if s.limit ≠ 0 ∧ s.upstreamOps.length ≥ s.limit then s
  else
    { s with
      ongoingAcceptOp := true
      upstreamOps := s.upstreamOps.orderedInsert (fun first second => first.id ≤ second.id) { id }
      ids := s.ids ++ [id]
      nextAccepts := s.nextAccepts ++ [{ id }] }

def asyncAcceptInternal (op : Nat) (id : String) (s : Acceptor) : Acceptor :=
  let errorCode : ErrorCode := if s.closed then Error.Code.operationAborted else .none
  let errorCode : ErrorCode :=
    if s.downstreamOp.isSome then Error.Code.operationInProgress else errorCode
  if errorCode.failed then s.invoke { op, errorCode }
  else
    match s.upstreamOps.find? (·.connected) with
    | some entry =>
      let s := s.invoke
        { op, errorCode := .none, peer := entry.peer, endpoint := entry.endpoint }
      s.eraseOp entry.id
    | none => doAccept id { s with downstreamOp := some op }

def onError (errorCode : ErrorCode) (s : Acceptor) : Acceptor :=
  if s.closed then s
  else
    let s := { s with ongoingAcceptOp := false, closed := true, upstreamOps := [] }
    match s.downstreamOp with
    | some op => { s.invoke { op, errorCode } with downstreamOp := none }
    | none => s

def closeInternal (s : Acceptor) : Acceptor := s.onError Error.Code.operationAborted

def onHandshake (id : String) (errorCode : ErrorCode) (next : String) (s : Acceptor) : Acceptor :=
  if s.closed then s
  else
    match s.upstreamOps.find? (·.id = id) with
    | none => s
    | some entry =>
      let s :=
        if ¬ errorCode.failed then
          match s.downstreamOp with
          | some op =>
            let s := s.invoke
              { op, errorCode, peer := entry.peer, endpoint := entry.endpoint }
            { s.eraseOp id with downstreamOp := none }
          | none => s.modifyOp id fun entry => { entry with connected := true }
        else s.eraseOp id
      s.doAccept next

/-- `do_handshake`; `setup` is what `stream_socket_ssl::wrap` throws. -/
def doHandshake (id : String) (setup : ErrorCode) (next : String) (s : Acceptor) : Acceptor :=
  match s.upstreamOps.find? (·.id = id) with
  | none => s
  | some entry =>
    let s :=
      if setup.failed then s.onHandshake id setup next
      else { s with handshakes := s.handshakes ++ (entry.peer.map fun socket => ⟨id, socket⟩).toList }
    s.doAccept next

def onAccept (id : String) (cause setup : ErrorCode) (next : String) (s : Acceptor) : Acceptor :=
  if s.closed then s
  else
    let s := { s with ongoingAcceptOp := false }
    if cause.failed then s.onError cause else s.doHandshake id setup next

/-- The accepted socket is stored through the references of the operation. -/
def store (id : String) (socket : Nat) (endpoint : String) (s : Acceptor) : Acceptor :=
  if s.upstreamOps.any (·.id = id) then
    s.modifyOp id fun entry => { entry with peer := some socket, endpoint := some endpoint }
  else { s with strayWrites := s.strayWrites + 1 }

/-- `async_accept_operation::complete`; `configured` is what `configure_internal` reports. -/
def complete (accept : NextAccept) (configured : ErrorCode) (s : Acceptor) :
    Option (ErrorCode × Acceptor) :=
  match accept.stage with
  | .accepted socket endpoint =>
    if configured.failed then some (configured, s)
    else some (.none, s.store accept.id socket endpoint)
  | .failed errorCode => some (errorCode, s)
  | .waiting | .posted _ => none

/-- What can happen to the acceptor. An event after which an entry may be made carries the
id of the entry. -/
inductive Event where
  /-- `async_accept` runs on the strand. -/
  | asyncAccept (id : String)
  /-- `close` runs on the strand. -/
  | close
  /-- The operating system accepts a connection. -/
  | accepted (accept : Nat) (endpoint : String)
  /-- The accept of the next layer fails or is cancelled. -/
  | acceptFailed (accept : Nat) (errorCode : ErrorCode)
  /-- The completion of the operating system runs `complete`. -/
  | complete (accept : Nat) (configured : ErrorCode)
  /-- `on_accept` runs on the strand. -/
  | onAccept (accept : Nat) (setup : ErrorCode) (id : String)
  /-- A handshake ends and `on_handshake` runs on the strand. -/
  | onHandshake (handshake : Nat) (errorCode : ErrorCode) (id : String)

/-- One event; ids are new, and a closed next layer accepts nothing. -/
def step (s : Acceptor) : Event → Option Acceptor
  | .asyncAccept id =>
    if id ∈ s.ids then none
    else some (asyncAcceptInternal s.calls id { s with calls := s.calls + 1 })
  | .close => some s.closeInternal
  | .accepted index endpoint =>
    match s.nextAccepts[index]? with
    | some ⟨id, .waiting⟩ =>
      if s.closed then none
      else some { s with
        sockets := s.sockets + 1
        nextAccepts := s.nextAccepts.set index ⟨id, .accepted s.sockets endpoint⟩ }
    | _ => none
  | .acceptFailed index errorCode =>
    match s.nextAccepts[index]? with
    | some ⟨id, .waiting⟩ =>
      if errorCode.failed then
        some { s with nextAccepts := s.nextAccepts.set index ⟨id, .failed errorCode⟩ }
      else none
    | _ => none
  | .complete index configured =>
    match s.nextAccepts[index]? with
    | some accept =>
      (s.complete accept configured).map fun (cause, s) =>
        { s with nextAccepts := s.nextAccepts.set index ⟨accept.id, .posted cause⟩ }
    | none => none
  | .onAccept index setup id =>
    match s.nextAccepts[index]? with
    | some ⟨accepted, .posted cause⟩ =>
      if id ∈ s.ids then none
      else some (onAccept accepted cause setup id
        { s with nextAccepts := s.nextAccepts.eraseIdx index })
    | _ => none
  | .onHandshake index errorCode id =>
    match s.handshakes[index]? with
    | some handshake =>
      if id ∈ s.ids then none
      else some (onHandshake handshake.id errorCode id
        { s with
          handshakes := s.handshakes.eraseIdx index
          handshaken := if errorCode.failed then s.handshaken
            else s.handshaken ++ [handshake.socket] })
    | none => none

end Acceptor

end Rstream.Io.Ssl
