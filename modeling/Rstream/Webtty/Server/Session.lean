import Rstream.Library.Runs
import Rstream.Webtty.Server.ClientProof

/-!
# A server session

`server::impl::session` serves one connection: it may upgrade it to a websocket,
announces itself with a `ServerHello`, waits for the `Open` of the client, starts a
child process and carries the terminal streams. All its functions run on the strand of
the session, so a state is its members together with what is in flight: the operations
on the transport, the queue, the child and the timers whose handlers have not run.

A state timer (`arm_state_timer`, `do_send_heartbeat`) is disarmed by the next change of
the state; only the armed ones are counted. A wait of `m_child_exit_timer` or
`m_termination_timer` is dropped when it is cancelled or the timer is set anew, unless
it has expired and its handler is queued.

The fields from `sent` on are the history of the run, no function reads them.
-/

namespace Rstream.Webtty.Server

open IoRstrm (ErrorCode)

inductive SessionState where
  | null | connecting | connected | disconnecting | disconnected
  deriving DecidableEq, Repr

inductive Loop where
  | null | readStdOut | readStdErr | heartbeat | exit
  deriving DecidableEq, Repr

/-- `stream::type`, for the output of the child. -/
inductive OutputStream where
  | stdOut | stdErr
  deriving DecidableEq, Repr

namespace OutputStream

/-- The loop that reads the stream. -/
def loop : OutputStream → Loop
  | .stdOut => .readStdOut
  | .stdErr => .readStdErr

def dataType : OutputStream → DataType
  | .stdOut => .stdOut
  | .stdErr => .stdErr

def payloadStream : OutputStream → PayloadStream
  | .stdOut => .stdOut
  | .stdErr => .stdErr

end OutputStream

/-- The handlers of waits of `m_child_exit_timer`. -/
inductive ChildExitWait where
  | recoverChildExit | queueCancelled
  deriving DecidableEq, Repr

/-- `server::impl::session`, and what is in flight around it. -/
structure Session where
  state : SessionState := .null
  handler : Bool := false
  errorCode : ErrorCode := .none
  closeCause : ErrorCode := .none
  stream : Option Backend := none
  child : Bool := false
  activeStreams : List OutputStream := []
  returnCode : Option Int := none
  payloadCrypto : Option PayloadCrypto := none
  serverNonce : Bytes := []
  opened : Bool := false
  childDone : Bool := false
  terminationRequested : Bool := false
  childExitCode : Int := 0
  finalMessageSent : Bool := false
  readInProgress : Bool := false
  cancelRequested : Bool := false
  resourcesCancelled : Bool := false
  resourcesClosed : Bool := false
  /-- Armed state timers. -/
  timers : Nat := 0
  /-- Armed heartbeat timers. -/
  heartbeats : Nat := 0
  childExitArmed : Option ChildExitWait := none
  childExitExpired : List ChildExitWait := []
  /-- The wait of the termination timer, and whether it is for a forced termination. -/
  terminationArmed : Option Bool := none
  terminationExpired : List Bool := []
  httpReads : Nat := 0
  httpWrites : Nat := 0
  websocketAccepts : Nat := 0
  websocketCloses : Nat := 0
  queueCancels : Nat := 0
  /-- Messages handed to the queue whose completion handlers have not run. -/
  sends : List (Message × Loop) := []
  outputReads : List OutputStream := []
  inputWrites : Nat := 0
  /-- The messages handed to the queue. -/
  sent : List Message := []
  /-- The calls of `make_child`. -/
  launches : List Launch := []
  /-- What is written to the input of the child; `none` closes it. -/
  input : List (Option Bytes) := []
  /-- The requests to terminate the child, and whether by force. -/
  terminations : List Bool := []
  /-- The run handlers that were invoked. -/
  completions : List ErrorCode := []

/-- What the read of a HTTP request yields. -/
inductive HttpRead where
  | endOfStream
  | failed (errorCode : ErrorCode)
  | request (upgrade : Bool) (authorization : Bytes)
  deriving DecidableEq

/-- A failed read has an error. -/
def HttpRead.genuine : HttpRead → Bool
  | .failed errorCode => errorCode.failed
  | .endOfStream | .request _ _ => true

/-- What a read of the output of the child yields; an error of input and output is the end
of a terminal. -/
inductive OutputRead where
  | data (bytes : Bytes)
  | endOfStream
  | ioError (errorCode : ErrorCode)
  | failed (errorCode : ErrorCode)
  deriving DecidableEq

/-- A failed read has an error. -/
def OutputRead.genuine : OutputRead → Bool
  | .ioError errorCode | .failed errorCode => errorCode.failed
  | .data _ | .endOfStream => true

namespace Session

section

variable (prims : ProofPrimitives) (settings : Settings) (world : World)

/-- `null` or `disconnected`. -/
def down (s : Session) : Bool :=
  decide (s.state = .null) || decide (s.state = .disconnected)

def setState (state : SessionState) (s : Session) : Session :=
  { s with state, timers := 0, heartbeats := 0 }

def armStateTimer (timeout : UInt32) (s : Session) : Session :=
  if timeout = 0 then s else { s with timers := s.timers + 1 }

def onClose (errorCode : ErrorCode) (s : Session) : Session :=
  if s.down then s
  else
    let cause := if s.errorCode.failed then s.errorCode else errorCode
    let s := { s with closeCause := cause }.setState .disconnected
    { s with queueCancels := s.queueCancels + 1 }

def onError (errorCode : ErrorCode) (s : Session) : Session :=
  if errorCode.failed then s.onClose errorCode else s

/-! ## Sending -/

def doSendMessage (message : Message) (loop : Loop) (s : Session) : Session :=
  if s.down then s
  else if world.serializes message then
    { s with sends := s.sends ++ [(message, loop)], sent := s.sent ++ [message] }
  else s.onError Error.Code.protocolError

def protocolErrorCode (errorCode : ErrorCode) : Option ProtocolErrorCode :=
  ([.knownServerRequired, .serverEndpointIdentityMismatch, .serverProofInvalid,
    .clientProofRequired, .clientProofInvalid, .clientUnauthorized].find? fun code : Error.Code =>
      decide (code.toErrorCode = errorCode)).bind toProtocolErrorCode

/-- The message that reports an error. -/
def errorMessage (errorCode : ErrorCode) : Message :=
  match protocolErrorCode errorCode with
  | some code => .protocolError code errorCode
  | none => .error errorCode

def doSendError (errorCode : ErrorCode) (s : Session) : Session :=
  if s.state ≠ .connecting ∧ s.state ≠ .connected then s
  else
    let s := ({ s with terminationArmed := none }.setState .disconnecting).armStateTimer
      settings.timeoutClose
    let s := { s with
      errorCode := if errorCode.failed ∧ s.errorCode.failed = false then errorCode
        else s.errorCode }
    s.doSendMessage world (errorMessage errorCode) .exit

def doSendClose (code : Int) (s : Session) : Session :=
  if s.state ≠ .connected then s
  else if s.activeStreams.isEmpty then
    let s := ({ s with terminationArmed := none }.setState .disconnecting).armStateTimer
      settings.timeoutClose
    s.doSendMessage world (.close code) .exit
  else { s with returnCode := some code }

/-! ## The child process -/

/-- `detail::process::request_termination`, recorded. -/
def requestProcessTermination (forced : Bool) (s : Session) : Session :=
  { s with terminations := s.terminations ++ [forced] }

def doClose (errorCode : ErrorCode) (s : Session) : Session :=
  if s.state ≠ .connected ∨ errorCode.failed = false then s
  else
    let s := s.armStateTimer settings.timeoutClose
    if s.childDone then s
    else (s.requestProcessTermination false).onError world.requestTermination

def cancelInternal (errorCode : ErrorCode) (s : Session) : Session :=
  if s.down then s
  else
    let cause := if errorCode.failed then errorCode else Error.Code.operationAborted.toErrorCode
    let s := { s with
      cancelRequested := true
      errorCode := if s.errorCode.failed then s.errorCode else cause }
    match s.state with
    | .connected => s.doClose settings world cause
    | .connecting => s.onError cause
    | .disconnecting => s.onClose cause
    | .null | .disconnected => s

def cancelResources (s : Session) : Session :=
  if s.resourcesCancelled then s
  else
    let s := { s with resourcesCancelled := true, childExitArmed := none, terminationArmed := none }
    if s.child ∧ s.childDone = false then s.requestProcessTermination true else s

def closeResources (s : Session) : Bool × Session :=
  if s.resourcesClosed then (true, s)
  else
    let s := s.cancelResources
    if s.child ∧ s.childDone = false then
      let (exited, errorCode) := world.recoverExit
      if exited = false ∧ errorCode.failed = false then (false, s)
      else if errorCode.failed then
        (true, { s with
          closeCause := if s.closeCause.failed then s.closeCause else errorCode
          resourcesClosed := true })
      else (true, { s with
        childDone := true, childExitCode := world.exitCode, resourcesClosed := true })
    else (true, { s with resourcesClosed := true })

def onQueueCancelled (s : Session) : Session :=
  let (closed, s) := s.closeResources world
  if closed = false then { s with childExitArmed := some .queueCancelled }
  else if s.handler then
    { s with handler := false, completions := s.completions ++ [s.closeCause] }
  else s

def armChildExitTimer (s : Session) : Session :=
  if s.state ≠ .connected ∨ s.childDone ∨ s.child = false then s
  else { s with childExitArmed := some .recoverChildExit }

def onChildExit (errorCode : ErrorCode) (code : Int) (s : Session) : Session :=
  if s.down ∨ s.childDone then s
  else
    let s := { s with childExitArmed := none }
    if errorCode.failed then s.doSendError settings world errorCode
    else { s with childDone := true, childExitCode := code }.doSendClose settings world code

def recoverChildExit (s : Session) : Session :=
  if s.state ≠ .connected ∨ s.childDone ∨ s.child = false then s
  else
    let (exited, errorCode) := world.recoverExit
    if errorCode.failed then s.onChildExit settings world errorCode 0
    else if exited then s.onChildExit settings world .none world.exitCode
    else s.armChildExitTimer

def armTerminationTimer (forced : Bool) (s : Session) : Session :=
  { s with terminationArmed := some forced }

def requestTermination (s : Session) : Session :=
  if s.state ≠ .connected ∨ s.childDone ∨ s.terminationRequested then s
  else
    let s := { s with terminationRequested := true }.requestProcessTermination false
    if world.requestTermination.failed then s.doSendError settings world world.requestTermination
    else s.armTerminationTimer false

/-- `on_termination_timeout` of a wait that expired. -/
def onTerminationTimeout (forced : Bool) (s : Session) : Session :=
  if s.state ≠ .connected then s
  else if forced then s.doSendError settings world Error.Code.operationTimeout
  else if s.childDone then s.armTerminationTimer true
  else
    let s := s.requestProcessTermination true
    if world.requestTermination.failed then s.doSendError settings world world.requestTermination
    else s.armTerminationTimer true

/-! ## The output of the child -/

def doReadStdfd (stream : OutputStream) (s : Session) : Session :=
  if s.down then s else { s with outputReads := s.outputReads ++ [stream] }

def readStdfdLoop (s : Session) : Session :=
  let s := { s with activeStreams :=
    if s.stream = some Backend.pipe then [.stdOut, .stdErr] else [.stdOut] }
  s.activeStreams.foldl (fun s stream => s.doReadStdfd stream) s

/-- The payload of a piece of output. -/
def outputPayload (stream : OutputStream) (bytes : Bytes) (s : Session) :
    DataPayload × ErrorCode :=
  match s.payloadCrypto with
  | none => (.data bytes, .none)
  | some crypto =>
    let (encrypted, errorCode) := crypto.encrypt prims.toPrimitives world.payloadNonce
      stream.payloadStream bytes
    (.encryptedData encrypted, errorCode)

/-- The end of a stream, in `on_read_stdfd`. -/
def onEndOfStream (stream : OutputStream) (s : Session) : Session :=
  let s := { s with activeStreams := s.activeStreams.erase stream }
  let s := s.doSendMessage world (.data stream.dataType .eos) .null
  if s.activeStreams.isEmpty then s.recoverChildExit settings world else s

def onReadStdfd (stream : OutputStream) (result : OutputRead) (s : Session) : Session :=
  if s.down then s
  else match result with
    | .data bytes =>
      let (payload, errorCode) := s.outputPayload prims world stream bytes
      if errorCode.failed then s.onError errorCode
      else s.doSendMessage world (.data stream.dataType payload) stream.loop
    | .endOfStream => s.onEndOfStream settings world stream
    | .ioError errorCode =>
      if s.stream = some Backend.tty then s.onEndOfStream settings world stream
      else { s with activeStreams := s.activeStreams.erase stream }.onError errorCode
    | .failed errorCode =>
      { s with activeStreams := s.activeStreams.erase stream }.onError errorCode

/-! ## Opening -/

def doReadIncomingMessage (s : Session) : Session :=
  if s.down ∨ s.readInProgress then s else { s with readInProgress := true }

def doSendHeartbeat (s : Session) : Session :=
  if settings.timeoutHeartbeat = 0 ∨ s.state ≠ .connected then s
  else { s with heartbeats := s.heartbeats + 1 }

/-- The transcript that the proof of the server signs. -/
def serverProofTranscript (identity : EndpointIdentity) (s : Session) : ServerProofTranscript where
  transport := transportString settings.protocolType
  workspaceId := settings.workspaceId
  projectId := settings.projectId
  serverId := settings.serverId
  sessionId := settings.sessionId
  serverSigningKeyId := (publicEndpointIdentity identity).signingKeyId
  serverEncryptionKeyId := (publicEndpointIdentity identity).encryptionKeyId
  serverNonce := s.serverNonce
  authRequirement := if settings.requireClientProof then .clientProof else .none
  payloadSuites := [.aes256Gcm]
  keyEnvelopeSuites := [.hpkeX25519HkdfSha256Aes256Gcm]
  signatureSuites := [.ecdsaP256Sha256]

/-- An optional field that is set unless it is empty. -/
def unlessEmpty (value : Bytes) : Option Bytes := if value.isEmpty then none else some value

/-- The `ServerHello` of the session. -/
def serverHello (identity : EndpointIdentity) (transcriptHash signature : Bytes) (s : Session) :
    ServerHello where
  protocolVersion := .webtty1
  sessionNonce := s.serverNonce
  serverIdentity := publicEndpointIdentity identity
  payloadSuites := [.aes256Gcm]
  keyEnvelopeSuites := [.hpkeX25519HkdfSha256Aes256Gcm]
  signatureSuites := [.ecdsaP256Sha256]
  authRequirement := if settings.requireClientProof then .clientProof else .none
  workspaceId := unlessEmpty settings.workspaceId
  projectId := unlessEmpty settings.projectId
  serverId := unlessEmpty settings.serverId
  sessionId := settings.sessionId
  serverProof := ⟨.ecdsaP256Sha256, (publicEndpointIdentity identity).signingKeyId,
    transcriptHash, signature⟩

def doSendServerHello (s : Session) : Session :=
  match settings.endpointIdentity with
  | none => s
  | some identity =>
    match world.serverNonce with
    | none => { s with serverNonce := List.replicate 32 0 }.onError Error.Code.cryptoError
    | some nonce =>
      let s := { s with serverNonce := nonce }
      let (transcriptHash, errorCode) := hashWebttyServerProofTranscript prims.sha256
        (s.serverProofTranscript settings identity) .none
      if errorCode.failed then s.onError errorCode
      else
        let (signature, errorCode) :=
          world.signDigest identity.signing.privateKey transcriptHash
        if errorCode.failed then s.onError errorCode
        else s.doSendMessage world
          (.serverHello (s.serverHello settings identity transcriptHash signature)) .null

def doOpen (s : Session) : Session :=
  if s.state ≠ .connecting then s
  else if settings.payloadCryptoResolver ∧ settings.endpointIdentity.isNone then
    s.onError Error.Code.protocolError
  else if settings.payloadCryptoResolver ∧ settings.requireClientProof = false then
    s.onError Error.Code.clientProofRequired
  else (s.doSendServerHello prims settings world).doReadIncomingMessage

/-- The user under which the child is to run, or why there is none. -/
def effectiveUsername (config : ProtocolConfig) : Except ErrorCode (Option Identifier) :=
  match settings.executionMode with
  | .spawn => .ok config.username
  | .login =>
    if config.username.isSome ∧ settings.allowClientUser = false then
      .error Error.Code.clientUserDisabled
    else match config.username.orElse fun _ => settings.defaultUsername with
      | none => .error Error.Code.loginUserRequired
      | some username => .ok (some username)

/-- How the child of a configuration is launched under an account. -/
def launchOf (config : ProtocolConfig) (userInfo : UserInfo) : Launch where
  backend := if config.options.allocateTty then .tty else .pipe
  exe := config.cmdArgs.headD userInfo.shell
  args := config.cmdArgs.tail
  envVars := world.executionEnvironment config.envVars settings.executionMode userInfo
  userInfo
  workdir := config.workdir.getD userInfo.home

/-- The launch of the child in `on_open`, and the error that it throws. -/
def launchChild (launch : Launch) (s : Session) : ErrorCode × Session :=
  match world.exePath launch.exe launch.workdir with
  | .error thrown => (thrown.val, s)
  | .ok path =>
    if path.isEmpty then (Error.Code.serverError, s)
    else
      let s := { s with launches := s.launches ++ [launch] }
      match world.makeChild launch with
      | some thrown => (thrown.val, s)
      | none => (.none, { s with child := true })

/-- What `on_open` does about the child: an error, and the session. -/
def startChild (config : ProtocolConfig) (s : Session) : ErrorCode × Session :=
  match effectiveUsername settings config with
  | .error errorCode => (errorCode, s)
  | .ok username =>
    let (userInfo, errorCode) := world.getUserInfo username
    if errorCode.failed then (errorCode, s)
    else
      let launch := launchOf settings world config userInfo
      { s with stream := some launch.backend }.launchChild world launch

def runLoop (s : Session) : Session :=
  ((s.readStdfdLoop.doReadIncomingMessage).doSendHeartbeat settings).armChildExitTimer

def onOpen (config : ProtocolConfig) (s : Session) : Session :=
  if s.state ≠ .connecting then s
  else
    let (errorCode, s) := s.startChild settings world config
    if errorCode.failed then s.doSendError settings world errorCode
    else
      let s := { s with opened := true }.setState .connected
      (s.doSendMessage world .ack .null).runLoop settings

/-! ## The upgrade to a websocket -/

def doAcceptWebsocket (s : Session) : Session :=
  if s.state ≠ .connecting then s else { s with websocketAccepts := s.websocketAccepts + 1 }

def doWriteHttpResponse (s : Session) : Session := { s with httpWrites := s.httpWrites + 1 }

def doProcessHttpRequest (upgrade : Bool) (authorization : Bytes) (s : Session) : Session :=
  if upgrade then
    match settings.authToken with
    | none => s.doAcceptWebsocket
    | some token =>
      if authorization ≠ bytesFromString "Bearer " ++ token then s.doWriteHttpResponse
      else s.doAcceptWebsocket
  else s.doWriteHttpResponse

def onReadHttpRequest (result : HttpRead) (s : Session) : Session :=
  match result with
  | .endOfStream => s.onClose .none
  | .failed errorCode => s.onError errorCode
  | .request upgrade authorization => s.doProcessHttpRequest settings upgrade authorization

def onWriteHttpResponse (errorCode : ErrorCode) (s : Session) : Session :=
  if errorCode.failed then s.onError errorCode else s.onClose .none

def onAcceptWebsocket (errorCode : ErrorCode) (s : Session) : Session :=
  if s.state ≠ .connecting then s
  else if errorCode.failed then s.onError errorCode
  else s.doOpen prims settings world

def onCloseWebsocket (s : Session) : Session := if s.down then s else s.onClose .none

def asyncRunInternal (s : Session) : Session :=
  if s.state ≠ .null then
    { s with completions := s.completions ++ [Error.Code.invalidState.toErrorCode] }
  else
    let s := ({ s with handler := true }.setState .connecting).armStateTimer settings.timeoutOpen
    match settings.protocolType with
    | .websocket => { s with httpReads := s.httpReads + 1 }
    | .plain => s.doOpen prims settings world

/-! ## The messages of the client -/

def onProcessData (errorCode : ErrorCode) (s : Session) : Session :=
  if s.down then s
  else if errorCode.failed then s.onError errorCode
  else s.doReadIncomingMessage

/-- `do_process_data` of a buffer; none is the end of the input. -/
def doProcessBuffer (buffer : Option Bytes) (s : Session) : Session :=
  if s.down then s
  else match buffer with
    | none => { s with input := s.input ++ [none] }.onProcessData .none
    | some bytes =>
      { s with input := s.input ++ [some bytes], inputWrites := s.inputWrites + 1 }

/-- `do_process_data` of a message. -/
def doProcessData (type : DataType) (payload : DataPayload) (s : Session) : Session :=
  if s.down then s
  else if type ≠ .stdIn then s.doSendError settings world Error.Code.unexpectedMessage
  else match payload, s.payloadCrypto with
    | .encryptedData _, none => s.doSendError settings world Error.Code.protocolError
    | .encryptedData encrypted, some crypto =>
      let (plaintext, errorCode) := crypto.decrypt prims.toPrimitives .stdIn encrypted []
      if errorCode.failed then s.doSendError settings world errorCode
      else s.doProcessBuffer (some plaintext)
    | .eos, _ => s.doProcessBuffer none
    | _, some _ => s.doSendError settings world Error.Code.e2eSessionKeyGrantRequired
    | .data bytes, none => s.doProcessBuffer (some bytes)
    | .notSet, none => s.doProcessBuffer (some [])

def isMessageExpected (state : SessionState) : Message → Bool
  | .open_ _ => state == .connecting
  | .data _ _ | .parameter _ | .error _ | .heartbeat | .terminate =>
    state == .connected || state == .disconnecting
  | _ => false

/-- What `on_read_incoming_message` makes of the grant of an `Open`. -/
def resolveGrant (open_ : Open) (s : Session) : ErrorCode × Session :=
  match open_.sessionKeyGrant with
  | some grant =>
    if settings.payloadCryptoResolver then
      let (payloadCrypto, errorCode) := world.payloadCryptoResolver grant
      (errorCode, { s with payloadCrypto })
    else (Error.Code.protocolError, s)
  | none =>
    if settings.payloadCryptoResolver then (Error.Code.e2eSessionKeyGrantRequired, s)
    else (.none, s)

/-- `on_read_incoming_message` of an `Open`: the error to report, and the session. -/
def onOpenMessage (open_ : Open) (s : Session) : ErrorCode × Session :=
  let errorCode := verifyClientProof prims settings world s.serverNonce open_
  if errorCode.failed then (errorCode, s)
  else
    let (errorCode, s) := s.resolveGrant settings world open_
    if errorCode.failed then (errorCode, s)
    else (.none, s.onOpen settings world (convert (open_.config.getD {})))

def setTerminalSize (s : Session) : ErrorCode :=
  if s.stream = some Backend.tty then world.setWindowSize else .none

/-- What `on_read_incoming_message` does for a message: the error to report, whether to read
on, and the session. -/
def processMessage (message : Message) (s : Session) : ErrorCode × Bool × Session :=
  if message = .attach then (Error.Code.managedAttachUnsupported, false, s)
  else if isMessageExpected s.state message = false then
    (Error.Code.unexpectedMessage, false, s)
  else match message with
    | .open_ value =>
      let (errorCode, s) := s.onOpenMessage prims settings world value
      (errorCode, false, s)
    | .error _ => (.none, false, s.cancelInternal settings world Error.Code.clientError)
    | .terminate => (.none, true, s.requestTermination settings world)
    | .data type payload => (.none, false, s.doProcessData prims settings world type payload)
    | .parameter (some _) => (s.setTerminalSize world, true, s)
    | .parameter none => (Error.Code.unexpectedMessage, false, s)
    | .heartbeat => (.none, true, s)
    | _ => (.none, false, s)

def onReadIncomingMessage (message : Message) (s : Session) : Session :=
  if s.down then s
  else
    let (errorCode, doReadMessages, s) := s.processMessage prims settings world message
    if errorCode.failed then s.doSendError settings world errorCode
    else if doReadMessages then s.doReadIncomingMessage
    else s

/-- `on_read_incoming_data`; the message is `none` when it cannot be parsed. -/
def onReadIncomingData (errorCode : ErrorCode) (message : Option Message) (s : Session) :
    Session :=
  let s := { s with readInProgress := false }
  if s.down then s
  else if s.state = .disconnecting then
    if errorCode.failed then s.onClose (if s.finalMessageSent then .none else errorCode)
    else s.doReadIncomingMessage
  else if errorCode.failed then s.onError errorCode
  else match message with
    | some message => s.onReadIncomingMessage prims settings world message
    | none => s.onError Error.Code.protocolError

def onSendMessage (errorCode : ErrorCode) (loop : Loop) (s : Session) : Session :=
  if s.down then s
  else if errorCode.failed then s.onError errorCode
  else match loop with
    | .readStdOut => s.doReadStdfd .stdOut
    | .readStdErr => s.doReadStdfd .stdErr
    | .heartbeat => s.doSendHeartbeat settings
    | .exit =>
      if s.cancelRequested then s.onClose s.errorCode
      else match settings.protocolType with
        | .websocket => { s with websocketCloses := s.websocketCloses + 1 }
        | .plain => { s with finalMessageSent := true }.doReadIncomingMessage
    | .null =>
      match s.returnCode with
      | some code =>
        if s.state = .connected ∧ s.activeStreams.isEmpty then
          s.doSendClose settings world code
        else s
      | none => s

/-! ## Steps -/

end

end Session

/-- The handlers that run on the strand, with what they are given. -/
inductive Event where
  | run
  | cancel
  | timer
  | heartbeat
  | httpRead (result : HttpRead)
  | httpWritten (errorCode : ErrorCode)
  | websocketAccepted (errorCode : ErrorCode)
  | websocketClosed
  | queueCancelled
  | received (errorCode : ErrorCode) (message : Option Message)
  | sent (index : Nat) (errorCode : ErrorCode)
  | outputRead (index : Nat) (result : OutputRead)
  | inputWritten (errorCode : ErrorCode)
  | expireChildExit
  | childExitTimer
  | expireTermination
  | terminationTimer

/-- A step of a session: a handler whose operation is in flight runs. -/
def Session.step (prims : ProofPrimitives) (settings : Settings) (s : Session)
    (input : Event × World) : Option Session :=
  let world := input.2
  match input.1 with
  | .run => some (s.asyncRunInternal prims settings world)
  | .cancel => some (s.cancelInternal settings world .none)
  | .timer =>
    if s.timers = 0 then none
    else some ({ s with timers := s.timers - 1 }.onError Error.Code.operationTimeout)
  | .heartbeat =>
    if s.heartbeats = 0 then none
    else some ({ s with heartbeats := s.heartbeats - 1 }.doSendMessage world .heartbeat
      .heartbeat)
  | .httpRead result =>
    if s.httpReads = 0 ∨ result.genuine = false then none
    else some ({ s with httpReads := s.httpReads - 1 }.onReadHttpRequest settings result)
  | .httpWritten errorCode =>
    if s.httpWrites = 0 then none
    else some ({ s with httpWrites := s.httpWrites - 1 }.onWriteHttpResponse errorCode)
  | .websocketAccepted errorCode =>
    if s.websocketAccepts = 0 then none
    else some ({ s with websocketAccepts := s.websocketAccepts - 1 }.onAcceptWebsocket prims
      settings world errorCode)
  | .websocketClosed =>
    if s.websocketCloses = 0 then none
    else some { s with websocketCloses := s.websocketCloses - 1 }.onCloseWebsocket
  | .queueCancelled =>
    if s.queueCancels = 0 then none
    else some ({ s with queueCancels := s.queueCancels - 1 }.onQueueCancelled world)
  | .received errorCode message =>
    if s.readInProgress then some (s.onReadIncomingData prims settings world errorCode message)
    else none
  | .sent index errorCode =>
    match s.sends[index]? with
    | none => none
    | some (_, loop) =>
      some ({ s with sends := s.sends.eraseIdx index }.onSendMessage settings world errorCode
        loop)
  | .outputRead index result =>
    match s.outputReads[index]? with
    | none => none
    | some stream =>
      if result.genuine = false then none
      else some ({ s with outputReads := s.outputReads.eraseIdx index }.onReadStdfd prims settings
        world stream result)
  | .inputWritten errorCode =>
    if s.inputWrites = 0 then none
    else some ({ s with inputWrites := s.inputWrites - 1 }.onProcessData errorCode)
  | .expireChildExit =>
    match s.childExitArmed with
    | none => none
    | some wait => some { s with
        childExitArmed := none, childExitExpired := s.childExitExpired ++ [wait] }
  | .childExitTimer =>
    match s.childExitExpired with
    | [] => none
    | wait :: waits =>
      let s := { s with childExitExpired := waits }
      match wait with
      | .recoverChildExit => some (s.recoverChildExit settings world)
      | .queueCancelled => some (s.onQueueCancelled world)
  | .expireTermination =>
    match s.terminationArmed with
    | none => none
    | some forced => some { s with
        terminationArmed := none, terminationExpired := s.terminationExpired ++ [forced] }
  | .terminationTimer =>
    match s.terminationExpired with
    | [] => none
    | forced :: waits =>
      some ({ s with terminationExpired := waits }.onTerminationTimeout settings world forced)

end Rstream.Webtty.Server
