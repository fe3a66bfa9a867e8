import Rstream.Library.Counting
import Rstream.Webtty.Client.Impl

/-!
# What a handler of a client can do

Every handler changes the client by a chain of the primitive changes of `Effect`, with the
guards under which the source makes them, so that an invariant of clients is checked
against these changes once. The changes that depend on each other are one effect: a read
that is taken from what is in flight is spent on the operation that follows it, and a
termination request that has started is at once completed, armed or written.

Some results hold only if the peer keeps an order of its messages. An effect that a message
causes passes a `gate`, a condition on the message and on what was handed to the queue
before it.
-/

namespace Rstream.Webtty.Client

open Option Nat
open IoRstrm (ErrorCode)
open Server (DataPayload DataType Message Open ProofPrimitives TerminalSize)

/-- A condition on the messages of the peer. -/
abbrev Gate := List Message → Incoming → Prop

/-- The messages of the local terminal. -/
inductive Typed (prims : ProofPrimitives) (settings : Settings) : Message → Prop where
  | data {payload : DataPayload} (bytes : Bytes) (world : World) (errorCode : ErrorCode)
      (made : Impl.inputPayload prims settings world bytes = (payload, errorCode))
      (succeeded : errorCode.failed = false) : Typed prims settings (.data .stdIn payload)
  | eos : Typed prims settings (.data .stdIn .eos)
  | terminalSize (size : TerminalSize) : Typed prims settings (.parameter (some size))

/-- The messages besides those of the terminal, an `Open` and a `Terminate`. -/
def neutral : Message → Bool
  | .error _ | .heartbeat => true
  | _ => false

/-- What a `Data` message has for the local output. -/
def content (prims : ProofPrimitives) (settings : Settings) :
    DataType × DataPayload → Option (StdfdType × Bytes)
  | (type, payload) =>
    match Impl.localStream type, payload, settings.payloadCrypto with
    | none, _, _ => none
    | some _, .eos, _ => none
    | some stream, .data bytes, _ => some (stream, bytes)
    | some stream, .notSet, _ => some (stream, [])
    | some _, .encryptedData _, none => none
    | some stream, .encryptedData encrypted, some crypto =>
      let (plaintext, errorCode) :=
        crypto.decrypt prims.toPrimitives stream.payloadStream encrypted []
      if errorCode.failed then none else some (stream, plaintext)

namespace Impl

/-- The operations of the transport and of the local output that follow each other. -/
def drive (s : Impl) : Nat := s.resolves + s.connects + s.handshakes + s.reads + s.writes.length

/-- Connected or disconnecting. -/
def Running (s : Impl) : Prop := s.state = .connected ∨ s.state = .disconnecting

/-- Neither null nor disconnected. -/
def Up (s : Impl) : Prop := s.state ≠ .null ∧ s.state ≠ .disconnected

/-- The cause with which a client closes. -/
def causeOf (errorCode : ErrorCode) (s : Impl) : ErrorCode :=
  if errorCode.failed ∧ s.errorCode.failed then s.errorCode else errorCode

end Impl

/-- One primitive change of a client. -/
inductive Effect (prims : ProofPrimitives) (settings : Settings) (gate : Gate) :
    Impl → Impl → Prop where
  | adjust {s : Impl} (timers heartbeats stdInReads sizeWaits : Nat)
      (terminalSize : Option TerminalSize) (canTerminate : Bool) :
      Effect prims settings gate s
        { s with timers, heartbeats, stdInReads, sizeWaits, terminalSize, canTerminate }
  | refuse {s : Impl} (refusal : ErrorCode × Int) :
      Effect prims settings gate s { s with refusals := s.refusals ++ [refusal] }
  | begin {s : Impl} (null : s.state = .null) :
      Effect prims settings gate s
        { s with state := .connecting, handler := true, resolves := s.resolves + 1 }
  | hop {s : Impl} (resolves connects handshakes reads : Nat)
      (forward : resolves + connects + handshakes ≤ s.resolves + s.connects + s.handshakes)
      (bounded : resolves + connects + handshakes + reads ≤
        s.resolves + s.connects + s.handshakes + s.reads) :
      Effect prims settings gate s { s with resolves, connects, handshakes, reads }
  | hello {s : Impl} (value : ServerHello) (reading : s.reads ≠ 0)
      (connecting : s.state = .connecting) (passes : gate s.sent (.serverHello value))
      (expected : settings.expectedServerIdentity.isSome = true)
      (accepted : (verifyServerHello prims settings value).failed = false) :
      Effect prims settings gate s { s with serverHello := some value }
  | answer {s : Impl} (hello : ServerHello) (value : Open) (world : World) (reads : Nat)
      (bounded : reads ≤ s.reads) (reading : s.reads ≠ 0) (connecting : s.state = .connecting)
      (passes : gate s.sent (.serverHello hello))
      (expected : settings.expectedServerIdentity.isSome = true)
      (accepted : (verifyServerHello prims settings hello).failed = false)
      (made : openMessage prims settings world (some hello) = .ok value) :
      Effect prims settings gate s
        ({ s with serverHello := some hello, reads }.asyncSend (.open_ value) (.loop .null))
  | open_ {s : Impl} (value : Open) (world : World) (connects handshakes reads : Nat)
      (spent : connects + handshakes + 1 ≤ s.connects + s.handshakes)
      (bounded : connects + handshakes + reads ≤ s.connects + s.handshakes + s.reads)
      (connecting : s.state = .connecting)
      (answers : settings.expectedServerIdentity.isSome = true → s.serverHello.isSome = true)
      (made : openMessage prims settings world s.serverHello = .ok value) :
      Effect prims settings gate s
        ({ s with connects, handshakes, reads }.asyncSend (.open_ value) (.loop .null))
  | connect {s : Impl} (capabilities : List SessionCapability) (connecting : s.state = .connecting)
      (passes : gate s.sent (.ack capabilities)) :
      Effect prims settings gate s { s with state := .connected }
  | announce {s : Impl} {message : Message} (loop : Loop) (up : s.Up)
      (plain : neutral message = true) :
      Effect prims settings gate s (s.asyncSend message (.loop loop))
  | type {s : Impl} {message : Message} (loop : Loop) (connected : s.state = .connected)
      (typed : Typed prims settings message) :
      Effect prims settings gate s (s.asyncSend message (.loop loop))
  | leave {s : Impl} (errorCode : ErrorCode) (raised : errorCode.failed = true)
      (connected : s.state = .connected) :
      Effect prims settings gate s { s with state := .disconnecting, errorCode }
  | exit {s : Impl} (state : State) (code : Int) (reads : Nat) (moved : state = .disconnecting)
      (reading : reads + 1 = s.reads) (running : s.Running) (remote : s.remoteReturnCode = none) :
      Effect prims settings gate s
        { s with state, reads, closes := s.closes ++ [code], remoteReturnCode := some code }
  | exitAgain {s : Impl} (code : Int) (reads : Nat) (reading : reads + 1 = s.reads)
      (remote : s.remoteReturnCode.isSome = true) :
      Effect prims settings gate s { s with reads, closes := s.closes ++ [code] }
  | deliver {s : Impl} {type : DataType} {payload : DataPayload} (reads : Nat)
      (running : s.Running) (passes : gate s.sent (.data type payload))
      (bounded : reads + (content prims settings (type, payload)).toList.length ≤ s.reads) :
      Effect prims settings gate s
        { s with
          reads, received := s.received ++ [(type, payload)]
          writes := s.writes ++ (content prims settings (type, payload)).toList }
  | wrote {s : Impl} {index : Nat} {stream : StdfdType} {bytes : Bytes} (count reads : Nat)
      (taken : s.writes[index]? = some (stream, bytes))
      (spent : reads = s.reads ∨ reads = s.reads + 1 ∧ count = bytes.length) :
      Effect prims settings gate s
        { s with
          writes := s.writes.eraseIdx index, reads
          written := s.written ++ [(stream, bytes.take count)] }
  | closeWebsocket {s : Impl} (code : Int) (remote : s.remoteReturnCode = some code) :
      Effect prims settings gate s { s with websocketCloses := s.websocketCloses ++ [code] }
  | dropWebsocket {s : Impl} (index : Nat) :
      Effect prims settings gate s
        { s with websocketCloses := s.websocketCloses.eraseIdx index }
  | close {s : Impl} (errorCode : ErrorCode) (code : Int) (up : s.Up)
      (why : errorCode.failed = true ∨ s.remoteReturnCode.isSome = true) :
      Effect prims settings gate s
        { s with
          state := .disconnected, closeCause := s.causeOf errorCode
          closeCode := s.remoteReturnCode.getD
            (if (s.causeOf errorCode).failed then -1 else code) }
  | cancelQueue {s : Impl} (closed : s.state = .disconnected) :
      Effect prims settings gate s { s with queueCancels := s.queueCancels + 1 }
  | barrier {s : Impl} (cancelled : s.queueCancels ≠ 0) :
      Effect prims settings gate s { s with queueCancels := s.queueCancels - 1 }.onQueueCancelled
  | dropSend {s : Impl} {index : Nat} {message : Message} {loop : Loop}
      (taken : s.sends[index]? = some (message, .loop loop)) :
      Effect prims settings gate s
        { s with
          sends := s.sends.eraseIdx index, pendingMessages := s.pendingMessages - 1 }
  -- Termination requests.
  | request {s : Impl} :
      Effect prims settings gate s
        { s with requests := s.requests + 1, begins := s.begins ++ [s.requests] }
  | flag {s : Impl} (operation : Nat) (made : operation < s.requests) :
      Effect prims settings gate s
        { s.setOperation operation { s.operations operation with cancelled := true } with
          cancels := s.cancels ++ [operation] }
  | dropCancel {s : Impl} (index : Nat) :
      Effect prims settings gate s { s with cancels := s.cancels.eraseIdx index }
  | startDone {s : Impl} {index operation : Nat} (taken : s.begins[index]? = some operation)
      (done : (s.operations operation).completed = true) :
      Effect prims settings gate s
        ({ s with begins := s.begins.eraseIdx index }.setOperation operation
          { s.operations operation with started := true })
  | startComplete {s : Impl} {index operation : Nat} (errorCode : ErrorCode)
      (taken : s.begins[index]? = some operation)
      (outstanding : (s.operations operation).completed = false)
      (why : errorCode.failed = true ∨ s.terminationSent = true ∨
        s.remoteReturnCode.isSome = true) :
      Effect prims settings gate s
        (({ s with begins := s.begins.eraseIdx index }.setOperation operation
            { s.operations operation with started := true }).completeTermination operation errorCode
          false)
  | startArm {s : Impl} {index operation : Nat} (taken : s.begins[index]? = some operation)
      (outstanding : (s.operations operation).completed = false)
      (unsent : s.terminationSent = false) (connecting : s.state = .connecting)
      (free : s.termination = none) :
      Effect prims settings gate s
        ({ s with
            begins := s.begins.eraseIdx index, termination := some operation }.setOperation operation
          { s.operations operation with started := true, timer := .armed })
  | startWrite {s : Impl} {index operation : Nat} (taken : s.begins[index]? = some operation)
      (outstanding : (s.operations operation).completed = false)
      (unsent : s.terminationSent = false) (connected : s.state = .connected)
      (free : s.termination = none) :
      Effect prims settings gate s
        (({ s with
              begins := s.begins.eraseIdx index, termination := some operation }.setOperation
            operation
            { s.operations operation with
              started := true, timer := .armed, writing := true, handler := false }).asyncSend
          .terminate (.termination operation))
  | startFail {s : Impl} {index operation : Nat} (errorCode : ErrorCode)
      (taken : s.begins[index]? = some operation)
      (outstanding : (s.operations operation).completed = false) (free : s.termination = none)
      (raised : errorCode.failed = true) :
      Effect prims settings gate s
        (({ s with
              begins := s.begins.eraseIdx index, termination := some operation }.setOperation
            operation
            { s.operations operation with started := true, timer := .armed }).completeTermination
          operation errorCode false)
  | openWrite {s : Impl} {operation : Nat} (capabilities : List SessionCapability)
      (connecting : s.state = .connecting) (passes : gate s.sent (.ack capabilities))
      (pending : s.termination = some operation) :
      Effect prims settings gate s
        (({ s with state := .connected }.setOperation operation
            { s.operations operation with writing := true, handler := false }).asyncSend .terminate
          (.termination operation))
  | openComplete {s : Impl} {operation : Nat} (capabilities : List SessionCapability)
      (errorCode : ErrorCode) (connecting : s.state = .connecting)
      (passes : gate s.sent (.ack capabilities)) (pending : s.termination = some operation)
      (raised : errorCode.failed = true) :
      Effect prims settings gate s
        ({ s with state := .connected }.completeTermination operation errorCode false)
  | complete {s : Impl} {operation : Nat} (errorCode : ErrorCode)
      (unwritten : (s.operations operation).writing = false)
      (known : (s.operations operation).started = true ∨ s.termination = some operation)
      (raised : errorCode.failed = true) :
      Effect prims settings gate s (s.completeTermination operation errorCode false)
  | expire {s : Impl} {operation : Nat} (armed : (s.operations operation).timer = .armed) :
      Effect prims settings gate s
        (s.setOperation operation { s.operations operation with timer := .expired })
  | fireComplete {s : Impl} {operation : Nat}
      (outstanding : (s.operations operation).completed = false)
      (started : (s.operations operation).started = true)
      (unwritten : (s.operations operation).writing = false) :
      Effect prims settings gate s
        ((s.setOperation operation { s.operations operation with timer := .idle }).completeTermination
          operation Error.Code.operationTimeout false)
  | fire {s : Impl} {operation : Nat}
      (idle : (s.operations operation).completed = true ∨
        (s.operations operation).started = false ∨ (s.operations operation).writing = true)
      (expired : (s.operations operation).timer = .expired) :
      Effect prims settings gate s
        (s.setOperation operation { s.operations operation with timer := .idle })
  | cut {s : Impl} {operation : Nat} (cause : ErrorCode)
      (outstanding : (s.operations operation).completed = false)
      (writing : (s.operations operation).writing = true)
      (ended : s.state = .null ∨ s.state = .disconnected) :
      Effect prims settings gate s
        (s.setOperation operation { s.operations operation with cause })
  | confirm {s : Impl} {index operation : Nat} {message : Message} (errorCode : ErrorCode)
      (taken : s.sends[index]? = some (message, .termination operation))
      (ended : ((s.operations operation).cause.orElse errorCode).failed = true →
        s.state = .null ∨ s.state = .disconnected) :
      Effect prims settings gate s
        ({ s with
            sends := s.sends.eraseIdx index, pendingMessages := s.pendingMessages - 1
            terminationSent := !((s.operations operation).cause.orElse errorCode).failed
            terminates := s.terminates ++ [errorCode] }.completeTermination operation
          ((s.operations operation).cause.orElse errorCode) true)

/-- A chain of effects. -/
abbrev Leads (prims : ProofPrimitives) (settings : Settings) (gate : Gate) (s t : Impl) : Prop :=
  Relation.ReflTransGen (Effect prims settings gate) s t

namespace Impl

section

variable {prims : ProofPrimitives} {settings : Settings} {gate : Gate}

variable {s : Impl}

theorem up_iff : s.down = false ↔ s.Up := by
  rw [down, Bool.or_eq_false_iff, decide_eq_false_iff_not, decide_eq_false_iff_not, Up]

theorem up_of_not (up : ¬ s.down = true) : s.Up := up_iff.mp (Bool.eq_false_iff.mpr up)

theorem Running.up (running : s.Running) : s.Up := by
  rcases running with state | state
  · exact ⟨by rw [state]; decide, by rw [state]; decide⟩
  · exact ⟨by rw [state]; decide, by rw [state]; decide⟩

/-! ## Closing -/

theorem state_completeTermination (operation : Nat) (errorCode : ErrorCode) (handler : Bool)
    (s : Impl) : (s.completeTermination operation errorCode handler).state = s.state := by
  rw [completeTermination]
  split
  · rfl
  · rfl

theorem state_abandonTermination (cause : ErrorCode) (s : Impl) :
    (s.abandonTermination cause).state = s.state := by
  rw [abandonTermination]
  split
  · rfl
  · split
    · rfl
    · exact state_completeTermination _ _ _ s

theorem leads_abandonTermination (cause : ErrorCode) (s : Impl) :
    Leads prims settings gate s (s.abandonTermination cause) := by
  rw [abandonTermination]
  split
  · exact .refl
  · rename_i operation pending
    split
    · exact .refl
    · rename_i writing
      refine .single (.complete _ (Bool.eq_false_iff.mpr writing) (.inr pending) ?_)
      split
      · assumption
      · rfl

theorem leads_onClose {errorCode : ErrorCode} (code : Int)
    (why : errorCode.failed = true ∨ s.remoteReturnCode.isSome = true) :
    Leads prims settings gate s (s.onClose errorCode code) := by
  rw [onClose]
  split
  · exact .refl
  · rename_i down
    refine .head (.adjust 0 0 s.stdInReads s.sizeWaits s.terminalSize s.canTerminate) ?_
    refine .head (.close errorCode code (up_of_not down) why) ?_
    refine .tail (leads_abandonTermination (s.causeOf errorCode) _) (.cancelQueue ?_)
    exact state_abandonTermination _ _

theorem leads_onError (errorCode : ErrorCode) (s : Impl) :
    Leads prims settings gate s (s.onError errorCode) := by
  rw [onError]
  split
  · rename_i raised
    exact leads_onClose 0 (.inl raised)
  · exact .refl

/-! ## A read to spare -/

theorem completeTermination_reads (operation : Nat) (errorCode : ErrorCode) (handler : Bool)
    (reads : Nat) (s : Impl) :
    { s with reads }.completeTermination operation errorCode handler =
      { s.completeTermination operation errorCode handler with reads } := by
  rw [completeTermination, completeTermination]
  split
  · rfl
  · rfl

theorem reads_completeTermination (operation : Nat) (errorCode : ErrorCode) (handler : Bool)
    (s : Impl) : (s.completeTermination operation errorCode handler).reads = s.reads := by
  rw [completeTermination]
  split
  · rfl
  · rfl

theorem onQueueCancelled_reads (reads : Nat) (s : Impl) :
    { s with reads }.onQueueCancelled = { s.onQueueCancelled with reads } := by
  rw [onQueueCancelled, onQueueCancelled]
  split
  · rfl
  · rfl

theorem reads_onQueueCancelled (s : Impl) : s.onQueueCancelled.reads = s.reads := by
  rw [onQueueCancelled]
  split
  · rfl
  · rfl

/-- One more read in flight. -/
def withRead (s : Impl) : Impl := { s with reads := s.reads + 1 }

theorem completeTermination_withRead (operation : Nat) (errorCode : ErrorCode) (handler : Bool)
    (s : Impl) :
    s.withRead.completeTermination operation errorCode handler =
      (s.completeTermination operation errorCode handler).withRead := by
  rw [withRead, withRead, completeTermination_reads, reads_completeTermination]

theorem onQueueCancelled_withRead (s : Impl) :
    s.withRead.onQueueCancelled = s.onQueueCancelled.withRead := by
  rw [withRead, withRead, onQueueCancelled_reads, reads_onQueueCancelled]

end

end Impl

section

variable {prims : ProofPrimitives} {settings : Settings} {gate : Gate}

/-- No effect depends on the absence of a read. -/
theorem Effect.withRead {s t : Impl} (effect : Effect prims settings gate s t) :
    Effect prims settings gate s.withRead t.withRead := by
  cases effect with
  | adjust => exact .adjust _ _ _ _ _ _
  | refuse => exact .refuse _
  | begin null => exact .begin null
  | hop resolves connects handshakes reads forward bounded =>
    exact .hop resolves connects handshakes (reads + 1) forward (succ_le_succ bounded)
  | hello value reading connecting passes expected accepted =>
    exact .hello value (succ_ne_zero _) connecting passes expected accepted
  | answer hello value world reads bounded reading connecting passes expected accepted made =>
    exact .answer hello value world (reads + 1) (succ_le_succ bounded) (succ_ne_zero _)
      connecting passes expected accepted made
  | open_ value world connects handshakes reads spent bounded connecting answers made =>
    exact .open_ value world connects handshakes (reads + 1) spent (succ_le_succ bounded)
      connecting answers made
  | connect capabilities connecting passes => exact .connect capabilities connecting passes
  | announce loop up plain => exact .announce loop up plain
  | type loop connected typed => exact .type loop connected typed
  | leave errorCode raised connected => exact .leave errorCode raised connected
  | exit state code reads moved reading running remote =>
    exact .exit state code (reads + 1) moved (congrArg (· + 1) reading) running remote
  | exitAgain code reads reading remote =>
    exact .exitAgain code (reads + 1) (congrArg (· + 1) reading) remote
  | deliver reads running passes bounded =>
    refine .deliver (reads + 1) running passes ?_
    rw [add_right_comm]
    exact succ_le_succ bounded
  | wrote count reads taken spent =>
    refine .wrote count (reads + 1) taken ?_
    rcases spent with same | ⟨more, all⟩
    · exact .inl (congrArg (· + 1) same)
    · exact .inr ⟨congrArg (· + 1) more, all⟩
  | closeWebsocket code remote => exact .closeWebsocket code remote
  | dropWebsocket index => exact .dropWebsocket index
  | close errorCode code up why => exact .close errorCode code up why
  | cancelQueue closed => exact .cancelQueue closed
  | barrier cancelled =>
    rw [← Impl.onQueueCancelled_withRead]
    exact .barrier cancelled
  | dropSend taken => exact .dropSend taken
  | request => exact .request
  | flag operation made => exact .flag operation made
  | dropCancel index => exact .dropCancel index
  | startDone taken done => exact .startDone taken done
  | startComplete errorCode taken outstanding why =>
    rw [← Impl.completeTermination_withRead]
    exact .startComplete errorCode taken outstanding why
  | startArm taken outstanding unsent connecting free =>
    exact .startArm taken outstanding unsent connecting free
  | startWrite taken outstanding unsent connected free =>
    exact .startWrite taken outstanding unsent connected free
  | startFail errorCode taken outstanding free raised =>
    rw [← Impl.completeTermination_withRead]
    exact .startFail errorCode taken outstanding free raised
  | openWrite capabilities connecting passes pending =>
    exact .openWrite capabilities connecting passes pending
  | openComplete capabilities errorCode connecting passes pending raised =>
    rw [← Impl.completeTermination_withRead]
    exact .openComplete capabilities errorCode connecting passes pending raised
  | complete errorCode unwritten known raised =>
    rw [← Impl.completeTermination_withRead]
    exact .complete errorCode unwritten known raised
  | expire armed => exact .expire armed
  | fireComplete outstanding started unwritten =>
    rw [← Impl.completeTermination_withRead]
    exact .fireComplete outstanding started unwritten
  | fire idle expired => exact .fire idle expired
  | cut cause outstanding writing ended => exact .cut cause outstanding writing ended
  | confirm errorCode taken ended =>
    rw [← Impl.completeTermination_withRead]
    exact .confirm errorCode taken ended

theorem Leads.withRead {s t : Impl} (chain : Leads prims settings gate s t) :
    Leads prims settings gate s.withRead t.withRead := by
  induction chain with
  | refl => exact .refl
  | tail _ effect ih => exact ih.tail effect.withRead

/-- A chain of effects, after which there may be one more read in flight. -/
def Spends (prims : ProofPrimitives) (settings : Settings) (gate : Gate) (s t : Impl) : Prop :=
  Leads prims settings gate s t ∨ Leads prims settings gate s.withRead t

theorem Leads.spends {s r t : Impl} (chain : Leads prims settings gate s r)
    (rest : Spends prims settings gate r t) : Spends prims settings gate s t := by
  rcases rest with same | more
  · exact .inl (chain.trans same)
  · exact .inr (chain.withRead.trans more)

/-! ## Sending -/

namespace Impl

variable (world : World)

theorem leads_armStateTimer (timeout : UInt32) (s : Impl) :
    Leads prims settings gate s (s.armStateTimer timeout) := by
  rw [armStateTimer]
  split
  · exact .refl
  · exact .single (.adjust _ s.heartbeats s.stdInReads s.sizeWaits s.terminalSize s.canTerminate)

variable {s t : Impl} {message : Message} {index operation : Nat} {cause errorCode : ErrorCode}
  {type : DataType} {payload : DataPayload}

theorem leads_doSendMessage {loop : Loop}
    (effect : s.Up → Effect prims settings gate s (s.asyncSend message (.loop loop))) :
    Leads prims settings gate s (s.doSendMessage world message loop) := by
  rw [doSendMessage]
  split
  · exact .refl
  · rename_i down
    split
    · exact .single (effect (up_of_not down))
    · exact leads_onError _ s

theorem leads_doClose (errorCode : ErrorCode) (s : Impl) :
    Leads prims settings gate s (s.doClose settings world errorCode) := by
  rw [doClose]
  split
  · exact .refl
  · rename_i other
    obtain ⟨connected, raised⟩ := not_or.mp other
    refine .head (.adjust 0 0 s.stdInReads s.sizeWaits s.terminalSize s.canTerminate) ?_
    refine .head (.leave errorCode (Bool.not_eq_false _ ▸ raised) (not_not.mp connected)) ?_
    refine (leads_armStateTimer settings.timeoutClose _).trans ?_
    exact leads_doSendMessage world fun up => .announce .null up rfl

theorem leads_cancelInternal (s : Impl) :
    Leads prims settings gate s (s.cancelInternal settings world) := by
  rw [cancelInternal]
  split
  · exact .refl
  · exact .refl
  · exact leads_doClose world _ s
  · exact leads_onError _ s
  · exact leads_onClose 0 (.inl rfl)

/-! ## Opening -/

/-- What becomes of the opening: it fails, waits for a hello, or the `Open` is sent. -/
theorem doOpen_cases (s : Impl) :
    s.doOpen prims settings world = s ∨
      (∃ errorCode, s.doOpen prims settings world = s.onError errorCode) ∨
      s.doOpen prims settings world = s.doReadIncomingMessage ∨
      ∃ value, s.state = .connecting ∧
        (settings.expectedServerIdentity.isSome = true → s.serverHello.isSome = true) ∧
        openMessage prims settings world s.serverHello = .ok value ∧
        s.doOpen prims settings world = s.withRead.doSendMessage world (.open_ value) .null := by
  rw [doOpen]
  split
  · exact .inl rfl
  · rename_i other
    have connecting := not_not.mp other
    split
    · exact .inr (.inl ⟨_, rfl⟩)
    · split
      · exact .inr (.inl ⟨_, rfl⟩)
      · split
        · exact .inr (.inr (.inl rfl))
        · rename_i unknown
          have answers : settings.expectedServerIdentity.isSome = true →
              s.serverHello.isSome = true := by
            intro expected
            by_contra none
            exact unknown ⟨expected, not_isSome_iff_eq_none.mp none ▸ rfl⟩
          rw [doSendOpen, if_neg other]
          split
          · exact .inr (.inl ⟨_, rfl⟩)
          · rename_i value made
            have up : s.down = false := up_iff.mpr
              ⟨by rw [connecting]; decide, by rw [connecting]; decide⟩
            rw [doReadIncomingMessage, if_neg (Bool.eq_false_iff.mp up)]
            exact .inr (.inr (.inr ⟨value, connecting, answers, made, rfl⟩))

theorem leads_doReadStdIn (s : Impl) : Leads prims settings gate s s.doReadStdIn := by
  rw [doReadStdIn]
  split
  · exact .refl
  · exact .single (.adjust s.timers s.heartbeats _ s.sizeWaits s.terminalSize s.canTerminate)

theorem leads_readStdInLoop (s : Impl) :
    Leads prims settings gate s (s.readStdInLoop settings world) := by
  rw [readStdInLoop]
  generalize (if settings.protocolConfig.options.allocateTty = true then world.setRaw
    else ErrorCode.none) = errorCode
  split
  · exact leads_onError _ s
  · exact leads_doReadStdIn s

theorem leads_onReadStdIn (result : InputRead) (s : Impl) :
    Leads prims settings gate s (s.onReadStdIn prims settings world result) := by
  rw [onReadStdIn.eq_def]
  split
  · exact .refl
  · rename_i other
    have connected := not_not.mp other
    split
    · exact leads_onError _ s
    · exact leads_doSendMessage world fun _ => .type .null connected .eos
    · rename_i bytes
      dsimp only
      split
      · exact leads_onError _ s
      · rename_i raised
        exact leads_doSendMessage world fun _ => .type .readStdIn connected
          (.data bytes world _ rfl (Bool.eq_false_iff.mpr raised))

theorem leads_doWaitForTerminalSize (s : Impl) :
    Leads prims settings gate s s.doWaitForTerminalSize := by
  rw [doWaitForTerminalSize]
  split
  · exact .refl
  · exact .single (.adjust s.timers s.heartbeats s.stdInReads _ s.terminalSize s.canTerminate)

theorem leads_onTerminalSizeSignal (errorCode : ErrorCode) (s : Impl) :
    Leads prims settings gate s (s.onTerminalSizeSignal world errorCode) := by
  rw [onTerminalSizeSignal]
  split
  · exact .refl
  · rename_i other
    have connected := not_not.mp other
    generalize (if errorCode.failed = true then (world.getSize.1, errorCode) else world.getSize) =
      read
    dsimp only
    split
    · exact leads_onError _ s
    · split
      · exact leads_doWaitForTerminalSize s
      · refine .head (.adjust s.timers s.heartbeats s.stdInReads s.sizeWaits (some read.1)
          s.canTerminate) ?_
        exact leads_doSendMessage world fun _ => .type .readTerminalSize connected (.terminalSize _)

theorem leads_doSendHeartbeat (s : Impl) :
    Leads prims settings gate s (s.doSendHeartbeat settings) := by
  rw [doSendHeartbeat]
  split
  · exact .refl
  · exact .single (.adjust s.timers _ s.stdInReads s.sizeWaits s.terminalSize s.canTerminate)

theorem spends_doReadIncomingMessage (s : Impl) :
    Spends prims settings gate s s.doReadIncomingMessage := by
  rw [doReadIncomingMessage]
  split
  · exact .inl .refl
  · exact .inr .refl

theorem Spends.leads {r : Impl} (rest : Spends prims settings gate s r)
    (chain : Leads prims settings gate r t) : Spends prims settings gate s t := by
  rcases rest with same | more
  · exact .inl (same.trans chain)
  · exact .inr (more.trans chain)

theorem spends_runLoop (s : Impl) :
    Spends prims settings gate s (s.runLoop settings world) := by
  have first : Leads prims settings gate s
      (if settings.protocolConfig.options.interactive then s.readStdInLoop settings world else s) := by
    split
    · exact leads_readStdInLoop world s
    · exact .refl
  rw [runLoop]
  refine first.spends ?_
  generalize (if settings.protocolConfig.options.interactive then s.readStdInLoop settings world
    else s) = r
  have second : Leads prims settings gate r
      (if settings.protocolConfig.options.allocateTty then r.onTerminalSizeSignal world .none
        else r) := by
    split
    · exact leads_onTerminalSizeSignal world _ r
    · exact .refl
  refine second.spends ?_
  generalize (if settings.protocolConfig.options.allocateTty then r.onTerminalSizeSignal world .none
    else r) = q
  refine Spends.leads (spends_doReadIncomingMessage q) ?_
  split
  · exact leads_doSendHeartbeat _
  · exact .refl

theorem spends_onOpen (capabilities : List SessionCapability)
    (passes : gate s.sent (.ack capabilities)) :
    Spends prims settings gate s (s.onOpen settings world) := by
  rw [onOpen]
  split
  · exact .inl .refl
  · rename_i other
    have connecting := not_not.mp other
    refine Leads.spends ?_ (spends_runLoop world _)
    refine .head (.adjust 0 0 s.stdInReads s.sizeWaits s.terminalSize s.canTerminate) ?_
    split
    · exact .single (.connect capabilities connecting passes)
    · rename_i operation pending
      rw [sendTermination]
      split
      · exact .single (.openComplete capabilities _ connecting passes pending rfl)
      · split
        · exact .single (.openComplete capabilities _ connecting passes pending rfl)
        · split
          · exact .single (.openComplete capabilities _ connecting passes pending rfl)
          · exact .single (.openWrite capabilities connecting passes pending)

/-! ## Termination requests -/

@[simp] theorem operations_setOperation (operation : Nat) (value : Operation) (s : Impl) :
    (s.setOperation operation value).operations operation = value := Function.update_self ..

@[simp] theorem setOperation_setOperation (operation : Nat) (first second : Operation) (s : Impl) :
    (s.setOperation operation first).setOperation operation second =
      s.setOperation operation second := by
  rw [setOperation, setOperation, setOperation]
  simp only [Function.update_idem]

/-- The request that `begin_termination` takes up, in front of what it does next. -/
theorem leads_holdTermination (taken : s.begins[index]? = some operation)
    (outstanding : (s.operations operation).completed = false) (unsent : s.terminationSent = false)
    (active : s.state = .connecting ∨ s.state = .connected) (free : s.termination = none) :
    Leads prims settings gate s
      (({ s with begins := s.begins.eraseIdx index }.setOperation operation
        { s.operations operation with started := true }).holdTermination world operation) := by
  have held : { ({ s with begins := s.begins.eraseIdx index }.setOperation operation
        { s.operations operation with started := true }) with
          termination := some operation }.setOperation operation
        { (({ s with begins := s.begins.eraseIdx index }.setOperation operation
          { s.operations operation with started := true }).operations operation) with
          timer := .armed } =
      { s with
        begins := s.begins.eraseIdx index, termination := some operation }.setOperation operation
        { s.operations operation with started := true, timer := .armed } := by
    rw [operations_setOperation]
    exact setOperation_setOperation operation _ _
      { s with begins := s.begins.eraseIdx index, termination := some operation }
  rw [holdTermination, held]
  split
  · rename_i connected
    rw [sendTermination]
    split
    · exact .single (.startFail _ taken outstanding free rfl)
    · split
      · exact .single (.startFail _ taken outstanding free rfl)
      · split
        · exact .single (.startFail _ taken outstanding free rfl)
        · rw [operations_setOperation, setOperation_setOperation]
          exact .single (.startWrite taken outstanding unsent connected free)
  · rename_i unconnected
    exact .single (.startArm taken outstanding unsent (active.resolve_right unconnected) free)

theorem leads_beginTermination (taken : s.begins[index]? = some operation) :
    Leads prims settings gate s
      ({ s with begins := s.begins.eraseIdx index }.beginTermination world operation) := by
  rw [beginTermination]
  simp only [operations_setOperation]
  split
  · rename_i done
    exact .single (.startDone taken done)
  · rename_i undone
    have outstanding := Bool.eq_false_iff.mpr undone
    split
    · exact .single (.startComplete _ taken outstanding (.inl rfl))
    · split
      · rename_i past
        exact .single (.startComplete _ taken outstanding (.inr past))
      · rename_i going
        have unsent : s.terminationSent = false := Bool.eq_false_iff.mpr fun sent => going (.inl sent)
        split
        · exact .single (.startComplete _ taken outstanding (.inl rfl))
        · rename_i other
          have active : s.state = .connecting ∨ s.state = .connected := by
            rcases not_and_or.mp other with connecting | connected
            · exact .inl (not_not.mp connecting)
            · exact .inr (not_not.mp connected)
          split
          · exact .single (.startComplete _ taken outstanding (.inl rfl))
          · rename_i busy
            exact leads_holdTermination world taken outstanding unsent active
              (not_isSome_iff_eq_none.mp busy)

/-- A request that is being written is cut off: the connection is closed for its cause. -/
theorem leads_cut (raised : cause.failed = true)
    (outstanding : (s.operations operation).completed = false)
    (writing : (s.operations operation).writing = true) :
    Leads prims settings gate s
      ((s.setOperation operation { s.operations operation with cause }).onError cause) := by
  rw [onError, if_pos raised, onClose]
  split
  · rename_i down
    change s.down = true at down
    rw [Impl.down, Bool.or_eq_true, decide_eq_true_eq, decide_eq_true_eq] at down
    exact .single (.cut cause outstanding writing down)
  · rename_i up
    change ¬ s.down = true at up
    refine .head (.adjust 0 0 s.stdInReads s.sizeWaits s.terminalSize s.canTerminate) ?_
    refine .head (.close cause 0 (up_of_not up) (.inl raised)) ?_
    refine .head (.cut cause outstanding writing (.inr rfl)) ?_
    refine .tail (leads_abandonTermination (s.causeOf cause) _) (.cancelQueue ?_)
    exact state_abandonTermination _ _

theorem leads_cancelTermination (operation : Nat) (raised : cause.failed = true) (s : Impl) :
    Leads prims settings gate s (s.cancelTermination operation cause) := by
  rw [cancelTermination]
  split
  · exact .refl
  · rename_i live
    obtain ⟨undone, begun⟩ := not_or.mp live
    split
    · rename_i unwritten
      exact .single (.complete cause unwritten (.inl (Bool.not_eq_false _ ▸ begun)) raised)
    · rename_i writing
      split
      · exact .refl
      · exact leads_cut raised (Bool.eq_false_iff.mpr undone) (Bool.not_eq_false _ ▸ writing)

theorem leads_terminationTimer (expired : (s.operations operation).timer = .expired) :
    Leads prims settings gate s
      ((s.setOperation operation { s.operations operation with timer := .idle }).cancelTermination
        operation Error.Code.operationTimeout) := by
  rw [cancelTermination]
  simp only [operations_setOperation]
  split
  · rename_i past
    refine .single (.fire ?_ expired)
    rcases past with done | unstarted
    · exact .inl done
    · exact .inr (.inl unstarted)
  · rename_i live
    obtain ⟨undone, begun⟩ := not_or.mp live
    have outstanding := Bool.eq_false_iff.mpr undone
    split
    · rename_i unwritten
      exact .single (.fireComplete outstanding (Bool.not_eq_false _ ▸ begun) unwritten)
    · rename_i unwritten
      have writing : (s.operations operation).writing = true := Bool.not_eq_false _ ▸ unwritten
      refine .head (.fire (.inr (.inr writing)) expired) ?_
      split
      · exact .refl
      · have same := operations_setOperation operation
          { s.operations operation with timer := .idle } s
        have raised : Error.Code.operationTimeout.toErrorCode.failed = true := rfl
        have chain : Leads prims settings gate
            (s.setOperation operation { s.operations operation with timer := .idle }) _ :=
          leads_cut raised
            ((congrArg Operation.completed same).trans outstanding)
            ((congrArg Operation.writing same).trans writing)
        rw [same] at chain
        exact chain

/-! ## Completed writes -/

theorem leads_finishCmdIfIdle (s : Impl) :
    Leads prims settings gate s (s.finishCmdIfIdle settings) := by
  rw [finishCmdIfIdle]
  split
  · exact .refl
  · rename_i code remote
    split
    · exact .refl
    · split
      · exact .single (.closeWebsocket code remote)
      · exact leads_onClose code (.inr (remote ▸ rfl))

theorem leads_onSendMessage {loop : Loop} (errorCode : ErrorCode)
    (taken : s.sends[index]? = some (message, .loop loop)) :
    Leads prims settings gate s
      ({ s with sends := s.sends.eraseIdx index }.onSendMessage settings errorCode loop) := by
  refine .head (.dropSend taken) ?_
  rw [onSendMessage.eq_def]
  dsimp only
  split
  · exact .refl
  · split
    · exact leads_onError errorCode _
    · split
      · exact leads_finishCmdIfIdle _
      · split
        · exact leads_doReadStdIn _
        · exact leads_doWaitForTerminalSize _
        · exact leads_doSendHeartbeat _
        · exact .refl

/-- What `complete_termination` changes depends only on these members. -/
theorem completeTermination_eq (operation : Nat) (errorCode : ErrorCode) (handler : Bool)
    (operations : t.operations = s.operations) (termination : t.termination = s.termination)
    (terminated : t.terminated = s.terminated) :
    t.completeTermination operation errorCode handler =
      { t with
        operations := (s.completeTermination operation errorCode handler).operations
        termination := (s.completeTermination operation errorCode handler).termination
        terminated := (s.completeTermination operation errorCode handler).terminated } := by
  rw [completeTermination, completeTermination, operations]
  split
  · rw [← operations, ← termination, ← terminated]
  · rw [setOperation, setOperation, operations, termination, terminated]

/-- The effect `confirm`, with the members that it changes written out. -/
theorem confirm_effect {r : Impl} (taken : r.sends[index]? = some (message, .termination operation))
    (operations : r.operations = s.operations) (termination : r.termination = s.termination)
    (terminated : r.terminated = s.terminated)
    (reason : cause = (r.operations operation).cause.orElse errorCode)
    (ended : cause.failed = true → r.state = .null ∨ r.state = .disconnected) :
    Effect prims settings gate r
      { r with
        sends := r.sends.eraseIdx index
        pendingMessages := r.pendingMessages - 1
        terminationSent := !cause.failed
        terminates := r.terminates ++ [errorCode]
        operations := (s.completeTermination operation cause true).operations
        termination := (s.completeTermination operation cause true).termination
        terminated := (s.completeTermination operation cause true).terminated } := by
  have effect : Effect prims settings gate r _ := .confirm errorCode taken (reason ▸ ended)
  rw [← reason] at effect
  have same := completeTermination_eq operation cause true (s := s)
    (t := { r with
      sends := r.sends.eraseIdx index
      pendingMessages := r.pendingMessages - 1
      terminationSent := !cause.failed
      terminates := r.terminates ++ [errorCode] }) operations termination terminated
  rw [same] at effect
  exact effect

theorem leads_onSendTermination (errorCode : ErrorCode)
    (taken : s.sends[index]? = some (message, .termination operation)) :
    Leads prims settings gate s
      ({ s with sends := s.sends.eraseIdx index }.onSendTermination settings errorCode
        operation) := by
  rw [onSendTermination]
  dsimp only
  generalize reason : (s.operations operation).cause.orElse errorCode = cause
  have same := completeTermination_eq operation cause true (s := s)
    (t := { s with
      sends := s.sends.eraseIdx index
      terminationSent := !cause.failed
      terminates := s.terminates ++ [errorCode] }) rfl rfl rfl
  rw [same, onSendMessage.eq_def]
  dsimp only
  split
  · rename_i down
    refine .single (confirm_effect taken rfl rfl rfl reason.symm fun _ => ?_)
    rw [Impl.down, Bool.or_eq_true, decide_eq_true_eq, decide_eq_true_eq] at down
    exact down
  · rename_i up
    split
    · rename_i raised
      rw [onError, if_pos raised, onClose, if_neg up]
      refine .head (.adjust 0 0 s.stdInReads s.sizeWaits s.terminalSize s.canTerminate) ?_
      refine .head (.close cause 0 (up_of_not up) (.inl raised)) ?_
      refine .head (confirm_effect (s := s) taken rfl rfl rfl reason.symm fun _ => .inr rfl) ?_
      refine .tail (leads_abandonTermination (s.causeOf cause) _) (.cancelQueue ?_)
      exact state_abandonTermination _ _
    · rename_i succeeded
      refine .head (confirm_effect taken rfl rfl rfl reason.symm fun raised =>
        absurd raised succeeded) ?_
      split
      · exact leads_finishCmdIfIdle _
      · exact .refl

/-! ## The messages of the server -/

theorem deliver_none {reads : Nat} (running : s.Running) (passes : gate s.sent (.data type payload))
    (empty : content prims settings (type, payload) = none) (bounded : reads ≤ s.reads) :
    Effect prims settings gate s
      { s with reads, received := s.received ++ [(type, payload)] } := by
  have effect : Effect prims settings gate s _ := .deliver reads running passes (by
    rw [empty]
    exact bounded)
  rw [empty, toList_none, List.append_nil] at effect
  exact effect

theorem deliver_some {write : StdfdType × Bytes} (running : s.Running)
    (passes : gate s.sent (.data type payload))
    (full : content prims settings (type, payload) = some write) (reading : s.reads ≠ 0) :
    Effect prims settings gate s
      { s with
        reads := s.reads - 1, received := s.received ++ [(type, payload)]
        writes := s.writes ++ [write] } := by
  have effect : Effect prims settings gate s _ := .deliver (s.reads - 1) running passes (by
    rw [full, toList_some, List.length_singleton, Nat.sub_add_cancel
      (Nat.one_le_iff_ne_zero.mpr reading)])
  rw [full, toList_some] at effect
  exact effect

theorem leads_doProcessData (reading : s.reads ≠ 0) (running : s.Running)
    (passes : gate s.sent (.data type payload)) :
    Leads prims settings gate s
      ({ s with reads := s.reads - 1 }.doProcessData prims settings type payload) := by
  have up : ¬ s.down = true := Bool.eq_false_iff.mp (up_iff.mpr running.up)
  -- A message without content for the local output ends the client.
  have fails : ∀ errorCode : ErrorCode, content prims settings (type, payload) = none →
      Leads prims settings gate s
        (onError errorCode
          { s with reads := s.reads - 1, received := s.received ++ [(type, payload)] }) :=
    fun errorCode empty => .head (deliver_none running passes empty (sub_le _ _))
      (leads_onError errorCode _)
  -- Content for the local output is written.
  have writes : ∀ stream bytes, content prims settings (type, payload) = some (stream, bytes) →
      Leads prims settings gate s
        (doProcessBuffer (some bytes) stream
          { s with reads := s.reads - 1, received := s.received ++ [(type, payload)] }) := by
    intro stream bytes full
    rw [doProcessBuffer.eq_def]
    split
    · rename_i down
      exact absurd down up
    · exact .single (deliver_some running passes full reading)
  -- The end of a stream is read past.
  have passesBy : ∀ stream, content prims settings (type, payload) = none →
      Leads prims settings gate s
        (doProcessBuffer none stream
          { s with reads := s.reads - 1, received := s.received ++ [(type, payload)] }) := by
    intro stream empty
    have whole : s.reads - 1 + 1 ≤ s.reads :=
      (Nat.sub_add_cancel (Nat.one_le_iff_ne_zero.mpr reading)).le
    rw [doProcessBuffer.eq_def]
    split
    · rename_i down
      exact absurd down up
    · dsimp only
      rw [onProcessData, doReadIncomingMessage]
      split
      · rename_i down
        exact absurd down up
      · exact .single (deliver_none running passes empty whole)
  rw [doProcessData]
  split
  · rename_i down
    exact absurd down up
  cases stream : localStream type with
  | none => exact fails _ (by simp only [content, stream])
  | some stream' =>
    cases payload with
    | notSet | data bytes => exact writes _ _ (by simp only [content, stream])
    | eos => exact passesBy _ (by simp only [content, stream])
    | encryptedData encrypted =>
      cases crypto : settings.payloadCrypto with
      | none => exact fails _ (by simp only [content, stream, crypto])
      | some crypto' =>
        dsimp only
        split
        · rename_i raised
          exact fails _ (by simp only [content, stream, crypto, raised, if_true])
        · rename_i succeeded
          refine writes _ _ ?_
          simp only [content, stream, crypto]
          exact if_neg succeeded

theorem leads_onCmdComplete {code : Int} (reading : s.reads ≠ 0) (running : s.Running) :
    Leads prims settings gate s
      ({ s with reads := s.reads - 1, closes := s.closes ++ [code] }.onCmdComplete settings
        code) := by
  have back := Nat.sub_add_cancel (Nat.one_le_iff_ne_zero.mpr reading)
  rw [onCmdComplete]
  split
  · rename_i other
    rcases other with outside | remote
    · exact absurd running (not_or.mpr outside)
    · exact .single (.exitAgain code _ back remote)
  · rename_i other
    have remote : s.remoteReturnCode = none :=
      not_isSome_iff_eq_none.mp (not_or.mp other).2
    dsimp only
    split
    · refine .head (.adjust 0 0 s.stdInReads s.sizeWaits s.terminalSize s.canTerminate) ?_
      refine .head (.exit .disconnecting code (s.reads - 1) rfl back running remote) ?_
      rw [armStateTimer]
      split
      · exact leads_finishCmdIfIdle _
      · exact .head (.adjust (0 + 1) 0 s.stdInReads s.sizeWaits s.terminalSize s.canTerminate)
          (leads_finishCmdIfIdle _)
    · rename_i unconnected
      refine .head (.exit s.state code (s.reads - 1) (running.resolve_left unconnected) back running
        remote) ?_
      exact leads_finishCmdIfIdle _

/-- A read that is taken is spent on what follows it. -/
theorem leads_of_spends (reading : s.reads ≠ 0)
    (rest : Spends prims settings gate { s with reads := s.reads - 1 } t) :
    Leads prims settings gate s t := by
  rcases rest with same | more
  · exact .head (.hop s.resolves s.connects s.handshakes (s.reads - 1) le_rfl
      (Nat.add_le_add_left (Nat.sub_le _ _) _)) same
  · refine .head (.hop s.resolves s.connects s.handshakes (s.reads - 1 + 1) le_rfl ?_) more
    exact (congrArg _ (Nat.sub_add_cancel (Nat.one_le_iff_ne_zero.mpr reading))).le

theorem running_of_expected
    (expected : ¬ (s.state == .connected || s.state == .disconnecting) = false) : s.Running := by
  rw [Bool.not_eq_false, Bool.or_eq_true, beq_iff_eq, beq_iff_eq] at expected
  exact expected

/-- An accepted hello is answered, or the client ends. -/
theorem leads_doOpen_of_hello {hello : ServerHello} (reading : s.reads ≠ 0)
    (connecting : s.state = .connecting) (passes : gate s.sent (.serverHello hello))
    (expected : settings.expectedServerIdentity.isSome = true)
    (accepted : (verifyServerHello prims settings hello).failed = false) :
    Leads prims settings gate s
      ({ s with reads := s.reads - 1, serverHello := some hello }.doOpen prims settings world) := by
  have keep : Effect prims settings gate s { s with serverHello := some hello } :=
    .hello hello reading connecting passes expected accepted
  have back := Nat.sub_add_cancel (Nat.one_le_iff_ne_zero.mpr reading)
  rcases doOpen_cases world { s with reads := s.reads - 1, serverHello := some hello } with
    same | ⟨errorCode, failed⟩ | waits | ⟨value, -, -, made, sends⟩
  · rw [same]
    exact .head keep (leads_of_spends reading (.inl .refl))
  · rw [failed]
    exact .head keep (leads_of_spends reading (.inl (leads_onError errorCode _)))
  · rw [waits]
    exact .head keep (leads_of_spends reading (spends_doReadIncomingMessage _))
  · rw [sends, doSendMessage]
    split
    · exact .head keep (leads_of_spends reading (.inr .refl))
    · split
      · exact .single (.answer hello value world (s.reads - 1 + 1) back.le reading connecting passes
          expected accepted made)
      · exact .head keep (leads_of_spends reading (.inr (leads_onError _ _)))

theorem leads_onServerHello {value : ServerHello} (reading : s.reads ≠ 0)
    (connecting : s.state = .connecting) (passes : gate s.sent (.serverHello value)) :
    Leads prims settings gate s
      (match { s with reads := s.reads - 1 }.processMessage prims settings world
          (.serverHello value) with
        | (errorCode, doReadMessages, s) =>
          if errorCode.failed then s.onError errorCode
          else if doReadMessages then s.doReadIncomingMessage
          else s) := by
  cases known : settings.expectedServerIdentity with
  | none =>
    simp only [processMessage, known]
    exact leads_of_spends reading (.inl (leads_onError _ _))
  | some expected =>
    by_cases raised : (verifyServerHello prims settings value).failed = true
    · simp only [processMessage, known, raised, if_true]
      exact leads_of_spends reading (.inl (leads_onError _ _))
    · simp only [processMessage, known, raised]
      exact leads_doOpen_of_hello world reading connecting passes (known ▸ rfl)
        (Bool.eq_false_iff.mpr raised)

theorem leads_onReadIncomingMessage {message : Incoming} (reading : s.reads ≠ 0)
    (passes : isMessageExpected s.state message = true → gate s.sent message) :
    Leads prims settings gate s
      ({ s with reads := s.reads - 1 }.onReadIncomingMessage prims settings world message) := by
  have fails : ∀ errorCode : ErrorCode, Leads prims settings gate s
      (onError errorCode { s with reads := s.reads - 1 }) :=
    fun errorCode => leads_of_spends reading (.inl (leads_onError errorCode _))
  rw [onReadIncomingMessage]
  split
  · exact leads_of_spends reading (.inl .refl)
  · split
    · exact fails _
    · rename_i expected
      have passes := passes (Bool.not_eq_false _ ▸ expected)
      cases message with
      | serverHello value =>
        have connecting : s.state = .connecting := eq_of_beq (Bool.not_eq_false _ ▸ expected)
        exact leads_onServerHello world reading connecting passes
      | ack capabilities =>
        refine leads_of_spends reading (Leads.spends ?_ (spends_onOpen world capabilities ?_))
        · exact .single (.adjust s.timers s.heartbeats s.stdInReads s.sizeWaits s.terminalSize
            (capabilities.contains .terminate))
        · exact passes
      | error => exact fails _
      | protocolError code =>
        have raised := failed_mapProtocolError code
        simp only [processMessage, raised, if_true]
        exact fails _
      | close code => exact leads_onCmdComplete reading (running_of_expected expected)
      | data type payload =>
        exact leads_doProcessData reading (running_of_expected expected) passes
      | heartbeat => exact leads_of_spends reading (spends_doReadIncomingMessage _)
      | other => exact leads_of_spends reading (.inl .refl)

theorem leads_onReadIncomingData {message : Option Incoming} (reading : s.reads ≠ 0)
    (passes : ∀ value, message = some value → errorCode.failed = false →
      isMessageExpected s.state value = true → gate s.sent value) :
    Leads prims settings gate s
      ({ s with reads := s.reads - 1 }.onReadIncomingData prims settings world errorCode
        message) := by
  rw [onReadIncomingData.eq_def]
  split
  · exact leads_of_spends reading (.inl .refl)
  · split
    · exact leads_of_spends reading (.inl (leads_onError _ _))
    · rename_i raised
      cases message with
      | none => exact leads_of_spends reading (.inl (leads_onError _ _))
      | some value =>
        exact leads_onReadIncomingMessage world reading
          (passes value rfl (Bool.eq_false_iff.mpr raised))

/-! ## Connecting -/

theorem leads_asyncRunInternal (s : Impl) :
    Leads prims settings gate s (s.asyncRunInternal settings) := by
  rw [asyncRunInternal]
  split
  · exact .single (.refuse _)
  · rename_i other
    refine .head (.adjust 0 0 s.stdInReads s.sizeWaits s.terminalSize s.canTerminate) ?_
    refine .head (.begin (not_not.mp other)) ?_
    rw [armStateTimer]
    split
    · exact .refl
    · exact .single (.adjust (0 + 1) 0 s.stdInReads s.sizeWaits s.terminalSize s.canTerminate)

theorem leads_onDoResolveHost (resolving : s.resolves ≠ 0) :
    Leads prims settings gate s
      ({ s with resolves := s.resolves - 1 }.onDoResolveHost errorCode) := by
  have back := Nat.sub_add_cancel (Nat.one_le_iff_ne_zero.mpr resolving)
  have drop : Effect prims settings gate s { s with resolves := s.resolves - 1 } :=
    .hop (s.resolves - 1) s.connects s.handshakes s.reads (by omega) (by omega)
  rw [onDoResolveHost]
  split
  · exact .single drop
  · split
    · exact .head drop (leads_onError _ _)
    · exact .single (.hop (s.resolves - 1) (s.connects + 1) s.handshakes s.reads (by omega)
        (by omega))

/-- What a step of connecting leaves over is spent on the opening. -/
theorem leads_doOpen_of_hop {connects handshakes : Nat}
    (bounded : connects + handshakes + 1 ≤ s.connects + s.handshakes) :
    Leads prims settings gate s ({ s with connects, handshakes }.doOpen prims settings world) := by
  have drop : Effect prims settings gate s { s with connects, handshakes } :=
    .hop s.resolves connects handshakes s.reads (by omega) (by omega)
  have relay : Effect prims settings gate s { s with connects, handshakes, reads := s.reads + 1 } :=
    .hop s.resolves connects handshakes (s.reads + 1) (by omega) (by omega)
  rcases doOpen_cases world { s with connects, handshakes } with
    same | ⟨errorCode, failed⟩ | waits | ⟨value, connecting, answers, made, sends⟩
  · rw [same]
    exact .single drop
  · rw [failed]
    exact .head drop (leads_onError errorCode _)
  · rw [waits, doReadIncomingMessage]
    split
    · exact .single drop
    · exact .single relay
  · rw [sends, doSendMessage]
    split
    · exact .single relay
    · split
      · exact .single (.open_ value world connects handshakes (s.reads + 1) bounded (by omega)
          connecting answers made)
      · exact .head relay (leads_onError _ _)

theorem leads_onConnect (connecting : s.connects ≠ 0) :
    Leads prims settings gate s
      ({ s with connects := s.connects - 1 }.onConnect prims settings world errorCode) := by
  have back := Nat.sub_add_cancel (Nat.one_le_iff_ne_zero.mpr connecting)
  have drop : Effect prims settings gate s { s with connects := s.connects - 1 } :=
    .hop s.resolves (s.connects - 1) s.handshakes s.reads (by omega) (by omega)
  rw [onConnect]
  split
  · exact .single drop
  · split
    · exact .head drop (leads_onError _ _)
    · split
      · exact .single (.hop s.resolves (s.connects - 1) (s.handshakes + 1) s.reads (by omega)
          (by omega))
      · have bounded : s.connects - 1 + s.handshakes + 1 ≤ s.connects + s.handshakes := by omega
        exact leads_doOpen_of_hop world bounded

theorem leads_onHandshakeWebsocket (shaking : s.handshakes ≠ 0) :
    Leads prims settings gate s
      ({ s with handshakes := s.handshakes - 1 }.onHandshakeWebsocket prims settings world
        errorCode) := by
  have drop : Effect prims settings gate s { s with handshakes := s.handshakes - 1 } :=
    .hop s.resolves s.connects (s.handshakes - 1) s.reads (by omega) (by omega)
  rw [onHandshakeWebsocket]
  split
  · exact .single drop
  · split
    · exact .head drop (leads_onError _ _)
    · have bounded : s.connects + (s.handshakes - 1) + 1 ≤ s.connects + s.handshakes := by omega
      exact leads_doOpen_of_hop world bounded

theorem leads_onProcessData {count : Nat} {stream : StdfdType} {bytes : Bytes}
    (taken : s.writes[index]? = some (stream, bytes))
    (whole : errorCode.failed = false → count = bytes.length) :
    Leads prims settings gate s
      ({ s with
        writes := s.writes.eraseIdx index
        written := s.written ++ [(stream, bytes.take count)] }.onProcessData errorCode) := by
  have drop : Effect prims settings gate s _ := .wrote count s.reads taken (.inl rfl)
  rw [onProcessData]
  split
  · exact .single drop
  · split
    · exact .head drop (leads_onError _ _)
    · rename_i up raised
      rw [doReadIncomingMessage]
      split
      · exact .single drop
      · exact .single (.wrote count (s.reads + 1) taken
          (.inr ⟨rfl, whole (Bool.eq_false_iff.mpr raised)⟩))

theorem leads_onCloseWebsocket {code : Int} (remote : s.remoteReturnCode.isSome = true) :
    Leads prims settings gate s (s.onCloseWebsocket code) := by
  rw [onCloseWebsocket]
  split
  · exact .refl
  · exact leads_onClose code (.inr remote)

/-! ## Steps and runs -/

/-- The websocket is closed only with a return code of the server. -/
def Announced (s : Impl) : Prop := s.websocketCloses ≠ [] → s.remoteReturnCode.isSome = true

/-- An expected message that a step reads passes the gate. -/
def Passes (gate : Gate) (s : Impl) (input : Event × World) : Prop :=
  ∀ errorCode message, input.1 = .received errorCode (some message) → errorCode.failed = false →
    isMessageExpected s.state message = true → gate s.sent message

theorem step_leads {input : Event × World} (announced : s.Announced) (passes : s.Passes gate input)
    (taken : s.step prims settings input = some t) : Leads prims settings gate s t := by
  obtain ⟨event, world⟩ := input
  cases event with
  | run =>
    cases taken
    exact leads_asyncRunInternal s
  | cancel =>
    cases taken
    exact leads_cancelInternal world s
  | requestTermination =>
    cases taken
    exact .single .request
  | cancelRequest operation =>
    obtain ⟨made, ⟨⟩⟩ := ite_none_right_eq_some.mp taken
    exact .single (.flag operation made)
  | beginTermination index =>
    cases found : s.begins[index]? with
    | none => simp only [step, found, reduceCtorEq] at taken
    | some operation =>
      simp only [step, found, some.injEq] at taken
      subst taken
      exact leads_beginTermination world found
  | cancelTermination index =>
    cases found : s.cancels[index]? with
    | none => simp only [step, found, reduceCtorEq] at taken
    | some operation =>
      simp only [step, found, some.injEq] at taken
      subst taken
      exact .head (.dropCancel index) (leads_cancelTermination operation rfl _)
  | expireTermination operation =>
    obtain ⟨armed, ⟨⟩⟩ := ite_none_right_eq_some.mp taken
    exact .single (.expire armed)
  | terminationTimer operation =>
    obtain ⟨expired, ⟨⟩⟩ := ite_none_right_eq_some.mp taken
    exact leads_terminationTimer expired
  | timer =>
    obtain ⟨-, ⟨⟩⟩ := ite_none_left_eq_some.mp taken
    exact .head (.adjust (s.timers - 1) s.heartbeats s.stdInReads s.sizeWaits s.terminalSize
      s.canTerminate) (leads_onError _ _)
  | heartbeat =>
    obtain ⟨-, ⟨⟩⟩ := ite_none_left_eq_some.mp taken
    refine .head (.adjust s.timers (s.heartbeats - 1) s.stdInReads s.sizeWaits s.terminalSize
      s.canTerminate) ?_
    exact leads_doSendMessage world fun up => .announce .heartbeat up rfl
  | resolved errorCode =>
    obtain ⟨resolving, ⟨⟩⟩ := ite_none_left_eq_some.mp taken
    exact leads_onDoResolveHost resolving
  | connected errorCode =>
    obtain ⟨connecting, ⟨⟩⟩ := ite_none_left_eq_some.mp taken
    exact leads_onConnect world connecting
  | handshaken errorCode =>
    obtain ⟨shaking, ⟨⟩⟩ := ite_none_left_eq_some.mp taken
    exact leads_onHandshakeWebsocket world shaking
  | received errorCode message =>
    obtain ⟨reading, ⟨⟩⟩ := ite_none_left_eq_some.mp taken
    refine leads_onReadIncomingData world reading fun value same => ?_
    exact passes errorCode value (congrArg (Event.received errorCode) same)
  | sent index errorCode =>
    rcases found : s.sends[index]? with _ | ⟨message, handler⟩
    · simp only [step, found, reduceCtorEq] at taken
    · cases handler with
      | loop loop =>
        simp only [step, found, some.injEq] at taken
        subst taken
        exact leads_onSendMessage errorCode found
      | termination operation =>
        simp only [step, found, some.injEq] at taken
        subst taken
        exact leads_onSendTermination errorCode found
  | inputRead result =>
    obtain ⟨-, ⟨⟩⟩ := ite_none_left_eq_some.mp taken
    exact .head (.adjust s.timers s.heartbeats (s.stdInReads - 1) s.sizeWaits s.terminalSize
      s.canTerminate) (leads_onReadStdIn world result _)
  | terminalSize errorCode =>
    obtain ⟨-, ⟨⟩⟩ := ite_none_left_eq_some.mp taken
    exact .head (.adjust s.timers s.heartbeats s.stdInReads (s.sizeWaits - 1) s.terminalSize
      s.canTerminate) (leads_onTerminalSizeSignal world errorCode _)
  | written index count errorCode =>
    rcases found : s.writes[index]? with _ | ⟨stream, bytes⟩
    · simp only [step, found, reduceCtorEq] at taken
    · simp only [step, found] at taken
      obtain ⟨unfinished, ⟨⟩⟩ := ite_none_left_eq_some.mp taken
      refine leads_onProcessData found fun succeeded => ?_
      by_contra short
      exact unfinished ⟨succeeded, short⟩
  | websocketClosed index =>
    cases found : s.websocketCloses[index]? with
    | none => simp only [step, found, reduceCtorEq] at taken
    | some code =>
      simp only [step, found, some.injEq] at taken
      subst taken
      refine .head (.dropWebsocket index) (leads_onCloseWebsocket (announced ?_))
      exact List.ne_nil_of_mem (List.mem_of_getElem? found)
  | queueCancelled =>
    obtain ⟨cancelled, ⟨⟩⟩ := ite_none_left_eq_some.mp taken
    exact .single (.barrier cancelled)

end Impl

end

end Rstream.Webtty.Client
