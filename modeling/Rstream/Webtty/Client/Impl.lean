import Mathlib.Logic.Function.Basic
import Rstream.Library.Runs
import Rstream.Webtty.Client.Proofs

/-!
# The client

`client::impl` connects to a server, opens a session and carries the local terminal. All
its functions run on one strand, so a state is its members together with what is in
flight: the operations on the transport, the queue, the local streams and the timers whose
handlers have not run.

A state timer (`arm_state_timer`, `do_send_heartbeat`) is disarmed by the next change of
the state; only the armed ones are counted. A termination request is known by its number:
`requests` have been made, and `operations` are their operations. The handler of a request
is in its operation until `send_termination` moves it into the write of the queue.

The fields from `sent` on are the history of the run, no function reads them.
-/

namespace Rstream.Webtty.Client

open IoRstrm (ErrorCode)
open Server (DataPayload DataType Message ProofPrimitives TerminalSize)

def operationInProgress : ErrorCode := ⟨115, .other "generic"⟩

inductive State where
  | null | connecting | connected | disconnecting | disconnected
  deriving DecidableEq, Repr

inductive Loop where
  | null | readStdIn | readTerminalSize | heartbeat
  deriving DecidableEq, Repr

inductive StdfdType where
  | stdOut | stdErr
  deriving DecidableEq, Repr

/-- The stream of a payload for a local stream. -/
def StdfdType.payloadStream : StdfdType → PayloadStream
  | .stdOut => .stdOut
  | .stdErr => .stdErr

/-- The wait of `termination_operation::m_timer`. An expired wait is queued and is not dropped
when the timer is cancelled. -/
inductive TimerWait where
  | idle | armed | expired
  deriving DecidableEq, Repr

/-- `TimerWait` after `cancel`. -/
def TimerWait.cancel : TimerWait → TimerWait
  | .idle | .armed => .idle
  | .expired => .expired

/-- `termination_operation`. -/
structure Operation where
  handler : Bool := true
  timer : TimerWait := .idle
  cancelled : Bool := false
  started : Bool := false
  writing : Bool := false
  completed : Bool := false
  cause : ErrorCode := .none
  deriving DecidableEq

/-- What runs when a message has been sent. -/
inductive SendHandler where
  | loop (loop : Loop)
  | termination (operation : Nat)
  deriving DecidableEq, Repr

/-- `client::impl`, and what is in flight around it. -/
structure Impl where
  state : State := .null
  handler : Bool := false
  errorCode : ErrorCode := .none
  terminalSize : Option TerminalSize := none
  serverHello : Option ServerHello := none
  pendingMessages : Nat := 0
  remoteReturnCode : Option Int := none
  closeCause : ErrorCode := .none
  closeCode : Int := 0
  resourcesClosed : Bool := false
  canTerminate : Bool := false
  terminationSent : Bool := false
  termination : Option Nat := none
  requests : Nat := 0
  operations : Nat → Operation := fun _ => {}
  /-- Armed state timers. -/
  timers : Nat := 0
  /-- Armed heartbeat timers. -/
  heartbeats : Nat := 0
  resolves : Nat := 0
  connects : Nat := 0
  handshakes : Nat := 0
  /-- Reads of the transport. -/
  reads : Nat := 0
  stdInReads : Nat := 0
  sizeWaits : Nat := 0
  /-- Messages handed to the queue whose completion handlers have not run. -/
  sends : List (Message × SendHandler) := []
  /-- Writes to the local output. -/
  writes : List (StdfdType × Bytes) := []
  websocketCloses : List Int := []
  queueCancels : Nat := 0
  /-- Posted calls of `begin_termination`. -/
  begins : List Nat := []
  /-- Dispatched calls of `cancel_termination`. -/
  cancels : List Nat := []
  /-- The messages handed to the queue. -/
  sent : List Message := []
  /-- The `Data` messages that were processed. -/
  received : List (DataType × DataPayload) := []
  /-- What was written to the local output. -/
  written : List (StdfdType × Bytes) := []
  /-- The return codes of the `Close` messages that were processed. -/
  closes : List Int := []
  /-- The confirmations of the queue that it is cancelled. -/
  barriers : Nat := 0
  /-- The completed run, and the runs that were refused. -/
  completions : List (ErrorCode × Int) := []
  refusals : List (ErrorCode × Int) := []
  /-- How the writes of `Terminate` messages ended. -/
  terminates : List ErrorCode := []
  /-- The termination handlers that were invoked. -/
  terminated : List (Nat × ErrorCode) := []

/-- What a read of the local input yields. -/
inductive InputRead where
  | data (bytes : Bytes)
  | endOfStream
  | failed (errorCode : ErrorCode)
  deriving DecidableEq

/-- A failed read has an error. -/
def InputRead.genuine : InputRead → Bool
  | .failed errorCode => errorCode.failed
  | .data _ | .endOfStream => true

namespace Impl

section

variable (prims : ProofPrimitives) (settings : Settings) (world : World)

/-- `null` or `disconnected`. -/
def down (s : Impl) : Bool :=
  decide (s.state = .null) || decide (s.state = .disconnected)

def setState (state : State) (s : Impl) : Impl := { s with state, timers := 0, heartbeats := 0 }

def armStateTimer (timeout : UInt32) (s : Impl) : Impl :=
  if timeout = 0 then s else { s with timers := s.timers + 1 }

/-- The members of an operation change. -/
def setOperation (operation : Nat) (value : Operation) (s : Impl) : Impl :=
  { s with operations := Function.update s.operations operation value }

/-- `complete_termination`; `handler` is whether a handler is passed. -/
def completeTermination (operation : Nat) (errorCode : ErrorCode) (handler : Bool) (s : Impl) :
    Impl :=
  let op := s.operations operation
  if op.completed then s
  else
    let s := s.setOperation operation { op with
      completed := true
      timer := op.timer.cancel
      handler := op.handler && handler }
    { s with
      termination := if s.termination = some operation then none else s.termination
      terminated :=
        if handler || op.handler then s.terminated ++ [(operation, errorCode)] else s.terminated }

/-- What `on_close` does about a pending termination request. -/
def abandonTermination (cause : ErrorCode) (s : Impl) : Impl :=
  match s.termination with
  | none => s
  | some operation =>
    if (s.operations operation).writing then s
    else s.completeTermination operation
      (if cause.failed then cause else Error.Code.operationAborted) false

def onClose (errorCode : ErrorCode) (code : Int) (s : Impl) : Impl :=
  if s.down then s
  else
    let s := s.setState .disconnected
    let cause := if errorCode.failed ∧ s.errorCode.failed then s.errorCode else errorCode
    let s := { s with
      closeCause := cause
      closeCode := s.remoteReturnCode.getD (if cause.failed then -1 else code) }
    let s := s.abandonTermination cause
    { s with queueCancels := s.queueCancels + 1 }

def onError (errorCode : ErrorCode) (s : Impl) : Impl :=
  if errorCode.failed then s.onClose errorCode 0 else s

/-- `on_queue_cancelled`, with `close_resources`. -/
def onQueueCancelled (s : Impl) : Impl :=
  let s := { s with resourcesClosed := true, barriers := s.barriers + 1 }
  if s.handler then
    { s with handler := false, completions := s.completions ++ [(s.closeCause, s.closeCode)] }
  else s

/-! ## Sending -/

/-- The queue takes a message. -/
def asyncSend (message : Message) (handler : SendHandler) (s : Impl) : Impl :=
  { s with
    pendingMessages := s.pendingMessages + 1
    sends := s.sends ++ [(message, handler)]
    sent := s.sent ++ [message] }

def doSendMessage (message : Message) (loop : Loop) (s : Impl) : Impl :=
  if s.down then s
  else if world.serializes message then s.asyncSend message (.loop loop)
  else s.onError Error.Code.protocolError

def doReadIncomingMessage (s : Impl) : Impl :=
  if s.down then s else { s with reads := s.reads + 1 }

def doClose (errorCode : ErrorCode) (s : Impl) : Impl :=
  if s.state ≠ .connected ∨ errorCode.failed = false then s
  else
    let s := { s.setState .disconnecting with errorCode }
    (s.armStateTimer settings.timeoutClose).doSendMessage world (.error errorCode) .null

def cancelInternal (s : Impl) : Impl :=
  let cause := Error.Code.operationAborted
  match s.state with
  | .null | .disconnected => s
  | .connected => s.doClose settings world cause
  | .connecting => s.onError cause
  | .disconnecting => s.onClose cause 0

/-! ## Termination requests -/

def sendTermination (operation : Nat) (s : Impl) : Impl :=
  let op := s.operations operation
  if op.cancelled then s.completeTermination operation Error.Code.operationAborted false
  else if s.canTerminate = false then
    s.completeTermination operation Error.Code.terminationUnsupported false
  else if world.serializes .terminate = false then
    s.completeTermination operation Error.Code.protocolError false
  else
    let s := s.setOperation operation { op with writing := true, handler := false }
    s.asyncSend .terminate (.termination operation)

/-- The end of `begin_termination`: the request becomes the pending one. -/
def holdTermination (operation : Nat) (s : Impl) : Impl :=
  let s := { s with termination := some operation }.setOperation operation
    { s.operations operation with timer := .armed }
  if s.state = .connected then s.sendTermination world operation else s

def beginTermination (operation : Nat) (s : Impl) : Impl :=
  let s := s.setOperation operation { s.operations operation with started := true }
  let op := s.operations operation
  if op.completed then s
  else if op.cancelled then s.completeTermination operation Error.Code.operationAborted false
  else if s.terminationSent ∨ s.remoteReturnCode.isSome then
    s.completeTermination operation .none false
  else if s.state ≠ .connecting ∧ s.state ≠ .connected then
    s.completeTermination operation Error.Code.invalidState false
  else if s.termination.isSome then
    s.completeTermination operation operationInProgress false
  else s.holdTermination world operation

def cancelTermination (operation : Nat) (cause : ErrorCode) (s : Impl) : Impl :=
  let op := s.operations operation
  if op.completed ∨ op.started = false then s
  else if op.writing = false then s.completeTermination operation cause false
  else if op.cause.failed then s
  else (s.setOperation operation { op with cause }).onError cause

/-! ## Opening -/

def doSendOpen (serverHello : Option ServerHello) (s : Impl) : Impl :=
  if s.state ≠ .connecting then s
  else match openMessage prims settings world serverHello with
    | .error errorCode => s.onError errorCode
    | .ok open_ => s.doReadIncomingMessage.doSendMessage world (.open_ open_) .null

def doOpen (s : Impl) : Impl :=
  if s.state ≠ .connecting then s
  else if settings.payloadCrypto.isSome ∧ settings.expectedServerIdentity.isNone then
    s.onError Error.Code.knownServerRequired
  else if settings.payloadCrypto.isSome ∧ settings.endpointIdentity.isNone then
    s.onError Error.Code.clientIdentityRequired
  else if settings.expectedServerIdentity.isSome ∧ s.serverHello.isNone then
    s.doReadIncomingMessage
  else s.doSendOpen prims settings world s.serverHello

/-! ## The local terminal -/

def doReadStdIn (s : Impl) : Impl :=
  if s.state ≠ .connected then s else { s with stdInReads := s.stdInReads + 1 }

def readStdInLoop (s : Impl) : Impl :=
  let errorCode := if settings.protocolConfig.options.allocateTty then world.setRaw else .none
  if errorCode.failed then s.onError errorCode else s.doReadStdIn

/-- The payload of a piece of local input. -/
def inputPayload (bytes : Bytes) : DataPayload × ErrorCode :=
  match settings.payloadCrypto with
  | none => (.data bytes, .none)
  | some crypto =>
    let (encrypted, errorCode) :=
      crypto.encrypt prims.toPrimitives world.payloadNonce .stdIn bytes
    (.encryptedData encrypted, errorCode)

def onReadStdIn (result : InputRead) (s : Impl) : Impl :=
  if s.state ≠ .connected then s
  else match result with
    | .failed errorCode => s.onError errorCode
    | .endOfStream => s.doSendMessage world (.data .stdIn .eos) .null
    | .data bytes =>
      let (payload, errorCode) := inputPayload prims settings world bytes
      if errorCode.failed then s.onError errorCode
      else s.doSendMessage world (.data .stdIn payload) .readStdIn

def doWaitForTerminalSize (s : Impl) : Impl :=
  if s.state ≠ .connected then s else { s with sizeWaits := s.sizeWaits + 1 }

def onTerminalSizeSignal (errorCode : ErrorCode) (s : Impl) : Impl :=
  if s.state ≠ .connected then s
  else
    let (size, cause) := if errorCode.failed then (world.getSize.1, errorCode) else world.getSize
    if cause.failed then s.onError cause
    else if s.terminalSize = some size then s.doWaitForTerminalSize
    else { s with terminalSize := some size }.doSendMessage world (.parameter (some size))
      .readTerminalSize

def doSendHeartbeat (s : Impl) : Impl :=
  if settings.timeoutHeartbeat = 0 ∨ s.state ≠ .connected then s
  else { s with heartbeats := s.heartbeats + 1 }

def runLoop (s : Impl) : Impl :=
  let options := settings.protocolConfig.options
  let s := if options.interactive then s.readStdInLoop settings world else s
  let s := if options.allocateTty then s.onTerminalSizeSignal world .none else s
  let s := s.doReadIncomingMessage
  if options.sendHeartbeat then s.doSendHeartbeat settings else s

def onOpen (s : Impl) : Impl :=
  if s.state ≠ .connecting then s
  else
    let s := s.setState .connected
    let s := match s.termination with
      | none => s
      | some operation => s.sendTermination world operation
    s.runLoop settings world

/-! ## The end of the command -/

/-- `finish_cmd_if_idle`, with `do_close_websocket`. -/
def finishCmdIfIdle (s : Impl) : Impl :=
  match s.remoteReturnCode with
  | none => s
  | some code =>
    if s.state ≠ .disconnecting ∨ s.pendingMessages ≠ 0 then s
    else match settings.protocolType with
      | .websocket => { s with websocketCloses := s.websocketCloses ++ [code] }
      | .plain => s.onClose .none code

def onCmdComplete (code : Int) (s : Impl) : Impl :=
  if (s.state ≠ .connected ∧ s.state ≠ .disconnecting) ∨ s.remoteReturnCode.isSome then s
  else
    let s :=
      if s.state = .connected then
        (s.setState .disconnecting).armStateTimer settings.timeoutClose
      else s
    { s with remoteReturnCode := some code }.finishCmdIfIdle settings

def onCloseWebsocket (code : Int) (s : Impl) : Impl :=
  if s.down then s else s.onClose .none code

def onSendMessage (errorCode : ErrorCode) (loop : Loop) (s : Impl) : Impl :=
  let s := { s with pendingMessages := s.pendingMessages - 1 }
  if s.down then s
  else if errorCode.failed then s.onError errorCode
  else if s.remoteReturnCode.isSome then s.finishCmdIfIdle settings
  else match loop with
    | .readStdIn => s.doReadStdIn
    | .readTerminalSize => s.doWaitForTerminalSize
    | .heartbeat => s.doSendHeartbeat settings
    | .null => s

/-- The handler of the write of a termination request. -/
def onSendTermination (errorCode : ErrorCode) (operation : Nat) (s : Impl) : Impl :=
  let cause := (s.operations operation).cause.orElse errorCode
  let s := { s with terminationSent := !cause.failed, terminates := s.terminates ++ [errorCode] }
  (s.completeTermination operation cause true).onSendMessage settings cause .null

/-! ## The messages of the server -/

def onProcessData (errorCode : ErrorCode) (s : Impl) : Impl :=
  if s.down then s
  else if errorCode.failed then s.onError errorCode
  else s.doReadIncomingMessage

/-- `do_process_data` of a buffer; none closes the stream. -/
def doProcessBuffer (buffer : Option Bytes) (stream : StdfdType) (s : Impl) : Impl :=
  if s.down then s
  else match buffer with
    | none => s.onProcessData .none
    | some bytes => { s with writes := s.writes ++ [(stream, bytes)] }

/-- The local stream of a `Data` message. -/
def localStream : DataType → Option StdfdType
  | .stdOut => some .stdOut
  | .stdErr => some .stdErr
  | .stdIn | .other _ => none

/-- `do_process_data` of a message. -/
def doProcessData (type : DataType) (payload : DataPayload) (s : Impl) : Impl :=
  if s.down then s
  else
    let s := { s with received := s.received ++ [(type, payload)] }
    match localStream type with
    | none => s.onError Error.Code.unexpectedMessage
    | some stream =>
      match payload with
      | .encryptedData encrypted =>
        match settings.payloadCrypto with
        | none => s.onError Error.Code.protocolError
        | some crypto =>
          let (plaintext, errorCode) :=
            crypto.decrypt prims.toPrimitives stream.payloadStream encrypted []
          if errorCode.failed then s.onError errorCode
          else s.doProcessBuffer (some plaintext) stream
      | .eos => s.doProcessBuffer none stream
      | .data bytes => s.doProcessBuffer (some bytes) stream
      | .notSet => s.doProcessBuffer (some []) stream

def isMessageExpected (state : State) : Incoming → Bool
  | .serverHello _ | .ack _ => state == .connecting
  | .error | .protocolError _ =>
    state == .connecting || state == .connected || state == .disconnecting
  | .data _ _ | .close _ | .heartbeat => state == .connected || state == .disconnecting
  | .other => false

/-- What `on_read_incoming_message` does for an expected message: the error to end with, whether
to read on, and the client. -/
def processMessage (message : Incoming) (s : Impl) : ErrorCode × Bool × Impl :=
  match message with
  | .serverHello hello =>
    let errorCode : ErrorCode := match settings.expectedServerIdentity with
      | some _ => verifyServerHello prims settings hello
      | none => Error.Code.knownServerRequired
    if errorCode.failed then (errorCode, false, s)
    else (.none, false, { s with serverHello := some hello }.doOpen prims settings world)
  | .ack capabilities =>
    let canTerminate := capabilities.contains .terminate
    (.none, false, { s with canTerminate }.onOpen settings world)
  | .error => (Error.Code.serverError, false, s)
  | .protocolError code => (mapProtocolError code, false, s)
  | .close returnCode =>
    (.none, false,
      { s with closes := s.closes ++ [returnCode] }.onCmdComplete settings returnCode)
  | .data type payload => (.none, false, s.doProcessData prims settings type payload)
  | .heartbeat => (.none, true, s)
  | .other => (.none, false, s)

def onReadIncomingMessage (message : Incoming) (s : Impl) : Impl :=
  if s.down then s
  else if isMessageExpected s.state message = false then
    s.onError Error.Code.unexpectedMessage
  else
    let (errorCode, doReadMessages, s) := s.processMessage prims settings world message
    if errorCode.failed then s.onError errorCode
    else if doReadMessages then s.doReadIncomingMessage
    else s

/-- `on_read_incoming_data`; the message is `none` when it cannot be parsed. -/
def onReadIncomingData (errorCode : ErrorCode) (message : Option Incoming) (s : Impl) : Impl :=
  if s.down then s
  else if errorCode.failed then s.onError errorCode
  else match message with
    | some message => s.onReadIncomingMessage prims settings world message
    | none => s.onError Error.Code.protocolError

/-! ## Connecting -/

/-- `async_run_internal`, with `do_resolve_host`. -/
def asyncRunInternal (s : Impl) : Impl :=
  if s.state ≠ .null then
    { s with refusals := s.refusals ++ [(Error.Code.invalidState.toErrorCode, -1)] }
  else
    let s := ({ s with handler := true }.setState .connecting).armStateTimer settings.timeoutOpen
    { s with resolves := s.resolves + 1 }

/-- `on_do_resolve_host`, with `do_connect`. -/
def onDoResolveHost (errorCode : ErrorCode) (s : Impl) : Impl :=
  if s.state ≠ .connecting then s
  else if errorCode.failed then s.onError errorCode
  else { s with connects := s.connects + 1 }

/-- `on_connect`, with `do_handshake_websocket`. -/
def onConnect (errorCode : ErrorCode) (s : Impl) : Impl :=
  if s.state ≠ .connecting then s
  else if errorCode.failed then s.onError errorCode
  else match settings.protocolType with
    | .websocket => { s with handshakes := s.handshakes + 1 }
    | .plain => s.doOpen prims settings world

def onHandshakeWebsocket (errorCode : ErrorCode) (s : Impl) : Impl :=
  if s.state ≠ .connecting then s
  else if errorCode.failed then s.onError errorCode
  else s.doOpen prims settings world

end

end Impl

/-! ## Steps -/

/-- The handlers that run on the strand, with what they are given, and the requests of other
threads. A completed write has taken `count` bytes, all of them unless it failed. -/
inductive Event where
  | run
  | cancel
  | requestTermination
  | cancelRequest (operation : Nat)
  | beginTermination (index : Nat)
  | cancelTermination (index : Nat)
  | expireTermination (operation : Nat)
  | terminationTimer (operation : Nat)
  | timer
  | heartbeat
  | resolved (errorCode : ErrorCode)
  | connected (errorCode : ErrorCode)
  | handshaken (errorCode : ErrorCode)
  | received (errorCode : ErrorCode) (message : Option Incoming)
  | sent (index : Nat) (errorCode : ErrorCode)
  | inputRead (result : InputRead)
  | terminalSize (errorCode : ErrorCode)
  | written (index count : Nat) (errorCode : ErrorCode)
  | websocketClosed (index : Nat)
  | queueCancelled
  deriving DecidableEq

/-- A step of a client: a handler whose operation is in flight runs. -/
def Impl.step (prims : ProofPrimitives) (settings : Settings) (s : Impl) (input : Event × World) :
    Option Impl :=
  let world := input.2
  match input.1 with
  | .run => some (s.asyncRunInternal settings)
  | .cancel => some (s.cancelInternal settings world)
  | .requestTermination => some { s with
      requests := s.requests + 1, begins := s.begins ++ [s.requests] }
  | .cancelRequest operation =>
    if operation < s.requests then
      some { s.setOperation operation { s.operations operation with cancelled := true } with
        cancels := s.cancels ++ [operation] }
    else none
  | .beginTermination index =>
    match s.begins[index]? with
    | none => none
    | some operation =>
      some ({ s with begins := s.begins.eraseIdx index }.beginTermination world operation)
  | .cancelTermination index =>
    match s.cancels[index]? with
    | none => none
    | some operation =>
      some ({ s with cancels := s.cancels.eraseIdx index }.cancelTermination operation
        Error.Code.operationAborted)
  | .expireTermination operation =>
    if (s.operations operation).timer = .armed then
      some (s.setOperation operation { s.operations operation with timer := .expired })
    else none
  | .terminationTimer operation =>
    if (s.operations operation).timer = .expired then
      some ((s.setOperation operation { s.operations operation with timer := .idle })
        |>.cancelTermination operation Error.Code.operationTimeout)
    else none
  | .timer =>
    if s.timers = 0 then none
    else some ({ s with timers := s.timers - 1 }.onError Error.Code.operationTimeout)
  | .heartbeat =>
    if s.heartbeats = 0 then none
    else some ({ s with heartbeats := s.heartbeats - 1 }.doSendMessage world .heartbeat
      .heartbeat)
  | .resolved errorCode =>
    if s.resolves = 0 then none
    else some ({ s with resolves := s.resolves - 1 }.onDoResolveHost errorCode)
  | .connected errorCode =>
    if s.connects = 0 then none
    else some ({ s with connects := s.connects - 1 }.onConnect prims settings world errorCode)
  | .handshaken errorCode =>
    if s.handshakes = 0 then none
    else some ({ s with handshakes := s.handshakes - 1 }.onHandshakeWebsocket prims settings world
      errorCode)
  | .received errorCode message =>
    if s.reads = 0 then none
    else some ({ s with reads := s.reads - 1 }.onReadIncomingData prims settings world errorCode
      message)
  | .sent index errorCode =>
    match s.sends[index]? with
    | none => none
    | some (_, handler) =>
      let s := { s with sends := s.sends.eraseIdx index }
      match handler with
      | .loop loop => some (s.onSendMessage settings errorCode loop)
      | .termination operation => some (s.onSendTermination settings errorCode operation)
  | .inputRead result =>
    if s.stdInReads = 0 ∨ result.genuine = false then none
    else some ({ s with stdInReads := s.stdInReads - 1 }.onReadStdIn prims settings world result)
  | .terminalSize errorCode =>
    if s.sizeWaits = 0 then none
    else some ({ s with sizeWaits := s.sizeWaits - 1 }.onTerminalSizeSignal world errorCode)
  | .written index count errorCode =>
    match s.writes[index]? with
    | none => none
    | some (stream, bytes) =>
      if errorCode.failed = false ∧ count ≠ bytes.length then none
      else some ({ s with
        writes := s.writes.eraseIdx index
        written := s.written ++ [(stream, bytes.take count)] }.onProcessData errorCode)
  | .websocketClosed index =>
    match s.websocketCloses[index]? with
    | none => none
    | some code =>
      some ({ s with websocketCloses := s.websocketCloses.eraseIdx index }.onCloseWebsocket code)
  | .queueCancelled =>
    if s.queueCancels = 0 then none
    else some { s with queueCancels := s.queueCancels - 1 }.onQueueCancelled

end Rstream.Webtty.Client
