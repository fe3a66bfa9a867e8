import Rstream.Library.Counting
import Rstream.Webtty.Server.Session

/-!
# What a handler of a session can do

The results about whole runs of a session look at a part of its members only: the state,
the streams of the child, what is handed to the queue and to the child, and the run
handler. They make up its `View`. Every handler changes the view by a chain of the
primitive changes of `Effect`, with the guards under which the source makes them, so that
an invariant of sessions is checked against these changes once.

The changes that depend on each other are one effect: the end of a stream takes the stream
from `m_active_streams` and announces it, and an operation whose handler runs is taken
from what is in flight.
-/

namespace Rstream.Webtty.Server

open IoRstrm (ErrorCode)

/-- The messages that end a session. -/
def Message.terminal : Message → Bool
  | .close _ | .error _ | .protocolError _ _ => true
  | _ => false

/-- The messages besides the terminal ones and the output of the child. -/
def Message.neutral : Message → Bool
  | .serverHello _ | .ack | .heartbeat => true
  | _ => false

/-- The loops that wait for nothing of the child. -/
def Loop.neutral : Loop → Bool
  | .null | .heartbeat => true
  | _ => false

variable {first second : OutputStream}

theorem OutputStream.dataType_injective (same : first.dataType = second.dataType) :
    first = second := by
  cases first with
  | stdOut =>
    cases second with
    | stdOut => rfl
    | stdErr => cases same
  | stdErr =>
    cases second with
    | stdOut => cases same
    | stdErr => rfl

theorem OutputStream.loop_injective (same : first.loop = second.loop) : first = second := by
  cases first with
  | stdOut =>
    cases second with
    | stdOut => rfl
    | stdErr => cases same
  | stdErr =>
    cases second with
    | stdOut => cases same
    | stdErr => rfl

/-- The streams that a session reads from a child. -/
def outputStreams (stream : Option Backend) : List OutputStream :=
  if stream = some Backend.pipe then [.stdOut, .stdErr] else [.stdOut]

theorem nodup_outputStreams (stream : Option Backend) : (outputStreams stream).Nodup := by
  rw [outputStreams]
  split
  · decide
  · decide

/-- The members of a session that the results about its runs are about. -/
structure View where
  state : SessionState
  handler : Bool
  stream : Option Backend
  activeStreams : List OutputStream
  payloadCrypto : Option PayloadCrypto
  sends : List Loop
  outputReads : List OutputStream
  sent : List Message
  input : List (Option Bytes)
  completions : List ErrorCode

def Session.view (s : Session) : View where
  state := s.state
  handler := s.handler
  stream := s.stream
  activeStreams := s.activeStreams
  payloadCrypto := s.payloadCrypto
  sends := s.sends.map Prod.snd
  outputReads := s.outputReads
  sent := s.sent
  input := s.input
  completions := s.completions

/-- The payload of a piece of output is encrypted if the session has a payload crypto. -/
def Sealed (prims : ProofPrimitives) (payloadCrypto : Option PayloadCrypto)
    (stream : OutputStream) (payload : DataPayload) : Prop :=
  match payloadCrypto with
  | none => ∃ bytes, payload = .data bytes
  | some crypto => ∃ bytes nonce encrypted errorCode, payload = .encryptedData encrypted ∧
      errorCode.failed = false ∧
      crypto.encrypt prims.toPrimitives nonce stream.payloadStream bytes = (encrypted, errorCode)

/-- Bytes for the child come from a successful decryption of a payload that was heard if the
session has a payload crypto. -/
def Unsealed (prims : ProofPrimitives) (heard : DataPayload → Prop)
    (payloadCrypto : Option PayloadCrypto) (bytes : Bytes) : Prop :=
  ∀ crypto, payloadCrypto = some crypto → ∃ encrypted errorCode,
    heard (.encryptedData encrypted) ∧ errorCode.failed = false ∧
      crypto.decrypt prims.toPrimitives .stdIn encrypted [] = (bytes, errorCode)

/-- One primitive change of a session, in a step that hears some payloads. -/
inductive Effect (prims : ProofPrimitives) (heard : DataPayload → Prop) : View → View → Prop where
  | dropSend {s : View} (index : Nat) : Effect prims heard s { s with sends := s.sends.eraseIdx index }
  | dropRead {s : View} (index : Nat) :
      Effect prims heard s { s with outputReads := s.outputReads.eraseIdx index }
  | begin {s : View} (null : s.state = .null) :
      Effect prims heard s { s with state := .connecting, handler := true }
  | close {s : View} (running : s.state ≠ .null) :
      Effect prims heard s { s with state := .disconnected }
  | announce {s : View} {message : Message} {loop : Loop} (running : s.state ≠ .null)
      (plain : message.neutral = true) (outside : loop.neutral = true) :
      Effect prims heard s { s with sends := s.sends ++ [loop], sent := s.sent ++ [message] }
  | report {s : View} (errorCode : ErrorCode)
      (running : s.state = .connecting ∨ s.state = .connected) :
      Effect prims heard s
        { s with
          state := .disconnecting, sends := s.sends ++ [.exit]
          sent := s.sent ++ [Session.errorMessage errorCode] }
  | finish {s : View} (code : Int) (connected : s.state = .connected)
      (drained : s.activeStreams = []) :
      Effect prims heard s
        { s with
          state := .disconnecting, sends := s.sends ++ [.exit], sent := s.sent ++ [.close code] }
  | prepare {s : View} (backend : Backend) (connecting : s.state = .connecting) :
      Effect prims heard s { s with stream := some backend }
  | key {s : View} (payloadCrypto : Option PayloadCrypto) (connecting : s.state = .connecting) :
      Effect prims heard s { s with payloadCrypto }
  | opened {s : View} (connecting : s.state = .connecting) :
      Effect prims heard s
        { s with
          state := .connected, activeStreams := outputStreams s.stream
          outputReads := s.outputReads ++ outputStreams s.stream
          sends := s.sends ++ [.null], sent := s.sent ++ [.ack] }
  | spoil {s : View} (activeStreams : List OutputStream) (running : s.state ≠ .null) :
      Effect prims heard s { s with state := .disconnected, activeStreams }
  | resume {s : View} {index : Nat} {stream : OutputStream}
      (taken : s.sends[index]? = some stream.loop) :
      Effect prims heard s
        { s with sends := s.sends.eraseIdx index, outputReads := s.outputReads ++ [stream] }
  | output {s : View} {index : Nat} {stream : OutputStream} {payload : DataPayload}
      (running : s.state ≠ .disconnected) (taken : s.outputReads[index]? = some stream)
      (encrypted : Sealed prims s.payloadCrypto stream payload) :
      Effect prims heard s
        { s with
          outputReads := s.outputReads.eraseIdx index, sends := s.sends ++ [stream.loop]
          sent := s.sent ++ [.data stream.dataType payload] }
  | endStream {s : View} {index : Nat} {stream : OutputStream}
      (running : s.state ≠ .disconnected) (taken : s.outputReads[index]? = some stream) :
      Effect prims heard s
        { s with
          outputReads := s.outputReads.eraseIdx index, sends := s.sends ++ [.null]
          activeStreams := s.activeStreams.erase stream
          sent := s.sent ++ [.data stream.dataType .eos] }
  | write {s : View} {buffer : Option Bytes} (connected : s.state = .connected)
      (decrypted : ∀ bytes, buffer = some bytes → Unsealed prims heard s.payloadCrypto bytes) :
      Effect prims heard s { s with input := s.input ++ [buffer] }
  | complete {s : View} (errorCode : ErrorCode) (handler : s.handler = true) :
      Effect prims heard s
        { s with handler := false, completions := s.completions ++ [errorCode] }

/-- A chain of effects. -/
abbrev Leads (prims : ProofPrimitives) (heard : DataPayload → Prop) (s t : Session) : Prop :=
  Relation.ReflTransGen (Effect prims heard) s.view t.view

/-- A change outside the view before a chain. -/
theorem Leads.after {prims : ProofPrimitives} {heard : DataPayload → Prop} {s r t : Session}
    (chain : Leads prims heard r t) (same : r.view = s.view) : Leads prims heard s t := by
  rw [Leads, ← same]
  exact chain

namespace Session

section

variable (prims : ProofPrimitives) {heard : DataPayload → Prop} (settings : Settings)
  (world : World)

variable {s : Session} {stream : OutputStream} {index : Nat}

theorem up_iff : s.down = false ↔ s.state ≠ .null ∧ s.state ≠ .disconnected := by
  rw [down, Bool.or_eq_false_iff, decide_eq_false_iff_not, decide_eq_false_iff_not]

theorem up_of_not (up : ¬ s.down = true) :
    s.state ≠ .null ∧ s.state ≠ .disconnected := up_iff.mp (Bool.eq_false_iff.mpr up)

theorem running_of_up (up : s.state ≠ .null ∧ s.state ≠ .disconnected)
    (other : s.state ≠ .disconnecting) : s.state = .connecting ∨ s.state = .connected := by
  cases here : s.state with
  | null => exact absurd here up.1
  | connecting => exact .inl rfl
  | connected => exact .inr rfl
  | disconnecting => exact absurd here other
  | disconnected => exact absurd here up.2

theorem view_armStateTimer (timeout : UInt32) (s : Session) :
    (s.armStateTimer timeout).view = s.view := by
  rw [armStateTimer]
  split
  · rfl
  · rfl

theorem leads_onClose (errorCode : ErrorCode) (s : Session) :
    Leads prims heard s (s.onClose errorCode) := by
  rw [onClose]
  split
  · exact .refl
  · rename_i up
    exact .single (.close (up_of_not up).1)

theorem leads_onError (errorCode : ErrorCode) (s : Session) :
    Leads prims heard s (s.onError errorCode) := by
  rw [onError]
  split
  · exact leads_onClose prims errorCode s
  · exact .refl

/-- The view after a failure. -/
theorem view_onError {errorCode : ErrorCode} (raised : errorCode.failed = true)
    (up : s.down = false) :
    (s.onError errorCode).view = { s.view with state := .disconnected } := by
  rw [onError, if_pos raised, onClose, if_neg (Bool.eq_false_iff.mp up)]
  rfl

/-- A message is handed to the queue, or it cannot be serialised and the session ends. -/
theorem view_doSendMessage (message : Message) (loop : Loop) (up : s.down = false) :
    (s.doSendMessage world message loop).view =
        { s.view with sends := s.view.sends ++ [loop], sent := s.view.sent ++ [message] } ∨
      (s.doSendMessage world message loop).view = { s.view with state := .disconnected } := by
  rw [doSendMessage, if_neg (Bool.eq_false_iff.mp up)]
  split
  · left
    rw [view, view, List.map_append]
    rfl
  · right
    exact view_onError rfl up

variable {loop : Loop} {t : Session}

/-- A message that neither ends the session nor is output of the child. -/
theorem leads_announce {message : Message} (s : Session) (plain : message.neutral = true)
    (outside : loop.neutral = true) : Leads prims heard s (s.doSendMessage world message loop) := by
  by_cases up : s.down = false
  · obtain ⟨running, -⟩ := up_iff.mp up
    rw [Leads]
    rcases view_doSendMessage world message loop up with sent | failed
    · rw [sent]
      exact .single (.announce running plain outside)
    · rw [failed]
      exact .single (.close running)
  · rw [doSendMessage, if_pos (Bool.not_eq_false _ ▸ up)]

theorem view_doSendLast (message : Message)
    (disconnecting : t.view = { s.view with state := .disconnecting }) :
    (t.doSendMessage world message .exit).view =
        { s.view with
          state := .disconnecting, sends := s.view.sends ++ [.exit]
          sent := s.view.sent ++ [message] } ∨
      (t.doSendMessage world message .exit).view = { s.view with state := .disconnected } := by
  have state : t.state = .disconnecting := congrArg View.state disconnecting
  have up : t.down = false := up_iff.mpr (by rw [state]; decide)
  rcases view_doSendMessage world message .exit up with sent | failed
  · rw [disconnecting] at sent
    exact .inl sent
  · rw [disconnecting] at failed
    exact .inr failed

theorem leads_doSendError (errorCode : ErrorCode) (s : Session) :
    Leads prims heard s (s.doSendError settings world errorCode) := by
  rw [doSendError]
  split
  · exact .refl
  · rename_i running
    rw [← not_or, not_not] at running
    have moved := view_armStateTimer settings.timeoutClose
      ({ s with terminationArmed := none }.setState .disconnecting)
    generalize ({ s with terminationArmed := none }.setState .disconnecting).armStateTimer
      settings.timeoutClose = t at moved
    rw [Leads]
    rcases view_doSendLast (s := s)
      (t := { t with errorCode := if errorCode.failed ∧ t.errorCode.failed = false then errorCode
        else t.errorCode }) world (errorMessage errorCode) moved with sent | failed
    · rw [sent]
      exact .single (.report errorCode running)
    · rw [failed]
      refine .single (.close ?_)
      rcases running with connecting | connected
      · exact fun null => by cases connecting.symm.trans null
      · exact fun null => by cases connected.symm.trans null

theorem leads_doSendClose (code : Int) (s : Session) :
    Leads prims heard s (s.doSendClose settings world code) := by
  rw [doSendClose]
  split
  · exact .refl
  · rename_i connected
    rw [not_not] at connected
    split
    · rename_i drained
      have moved := view_armStateTimer settings.timeoutClose
        ({ s with terminationArmed := none }.setState .disconnecting)
      rw [Leads]
      rcases view_doSendLast (s := s) world (.close code) moved with sent | failed
      · rw [sent]
        exact .single (.finish code connected (List.isEmpty_iff.mp drained))
      · rw [failed]
        exact .single (.close fun null => by cases connected.symm.trans null)
    · exact .refl

/-! ## The child process -/

theorem leads_doClose (errorCode : ErrorCode) (s : Session) :
    Leads prims heard s (s.doClose settings world errorCode) := by
  rw [doClose]
  split
  · exact .refl
  · have armed := view_armStateTimer settings.timeoutClose s
    rw [Leads, ← armed]
    simp only
    split
    · exact .refl
    · exact leads_onError prims _ (requestProcessTermination false _)

theorem leads_cancelInternal (errorCode : ErrorCode) (s : Session) :
    Leads prims heard s (s.cancelInternal settings world errorCode) := by
  rw [cancelInternal]
  split
  · exact .refl
  · simp only
    split
    · exact (leads_doClose prims settings world _ _).after rfl
    · exact (leads_onError prims _ _).after rfl
    · exact (leads_onClose prims _ _).after rfl
    · exact .refl
    · exact .refl

theorem view_cancelResources (s : Session) : s.cancelResources.view = s.view := by
  rw [cancelResources]
  split
  · rfl
  · simp only
    split
    · rfl
    · rfl

theorem view_closeResources (s : Session) : (s.closeResources world).2.view = s.view := by
  rw [closeResources]
  split
  · rfl
  · rw [← view_cancelResources s]
    simp only
    split
    · split
      · rfl
      · split
        · rfl
        · rfl
    · rfl

theorem leads_onQueueCancelled (s : Session) : Leads prims heard s (s.onQueueCancelled world) := by
  have kept := view_closeResources world s
  rw [onQueueCancelled]
  generalize s.closeResources world = closed at kept
  rw [Leads, ← kept]
  simp only
  split
  · exact .refl
  · split
    · rename_i handler
      exact .single (.complete _ handler)
    · exact .refl

theorem leads_armChildExitTimer (s : Session) : Leads prims heard s s.armChildExitTimer := by
  rw [armChildExitTimer]
  split
  · exact .refl
  · exact .refl

theorem leads_onChildExit (errorCode : ErrorCode) (code : Int) (s : Session) :
    Leads prims heard s (s.onChildExit settings world errorCode code) := by
  rw [onChildExit]
  split
  · exact .refl
  · simp only
    split
    · exact leads_doSendError prims settings world _ { s with childExitArmed := none }
    · exact leads_doSendClose prims settings world _
        { s with childExitArmed := none, childDone := true, childExitCode := code }

theorem leads_recoverChildExit (s : Session) :
    Leads prims heard s (s.recoverChildExit settings world) := by
  rw [recoverChildExit]
  split
  · exact .refl
  · simp only
    split
    · exact leads_onChildExit prims settings world _ _ s
    · split
      · exact leads_onChildExit prims settings world _ _ s
      · exact leads_armChildExitTimer prims s

theorem leads_requestTermination (s : Session) :
    Leads prims heard s (s.requestTermination settings world) := by
  rw [requestTermination]
  split
  · exact .refl
  · simp only
    split
    · exact leads_doSendError prims settings world _
        ({ s with terminationRequested := true }.requestProcessTermination false)
    · exact .refl

theorem leads_onTerminationTimeout (forced : Bool) (s : Session) :
    Leads prims heard s (s.onTerminationTimeout settings world forced) := by
  rw [onTerminationTimeout]
  split
  · exact .refl
  · split
    · exact leads_doSendError prims settings world _ s
    · split
      · exact .refl
      · simp only
        split
        · exact leads_doSendError prims settings world _ (s.requestProcessTermination true)
        · exact .refl

/-! ## The output of the child -/

theorem doReadStdfd_of_up (stream : OutputStream) (up : s.down = false) :
    s.doReadStdfd stream = { s with outputReads := s.outputReads ++ [stream] } := by
  rw [doReadStdfd, if_neg (Bool.eq_false_iff.mp up)]

/-- The reads that `read_stdfd_loop` starts. -/
theorem foldl_doReadStdfd_of_up (streams : List OutputStream) (up : s.down = false) :
    streams.foldl (fun s stream => s.doReadStdfd stream) s =
      { s with outputReads := s.outputReads ++ streams } := by
  induction streams generalizing s with
  | nil =>
    rw [List.foldl_nil, List.append_nil]
  | cons stream streams ih =>
    have later := ih (s := { s with outputReads := s.outputReads ++ [stream] }) up
    rw [List.foldl_cons, doReadStdfd_of_up stream up, later, List.append_assoc,
      List.singleton_append]

theorem foldl_doReadStdfd_of_down (streams : List OutputStream) (isDown : s.down = true) :
    streams.foldl (fun s stream => s.doReadStdfd stream) s = s := by
  induction streams with
  | nil => rfl
  | cons stream streams ih =>
    rw [List.foldl_cons, doReadStdfd, if_pos isDown]
    exact ih

theorem readStdfdLoop_of_up (up : s.down = false) :
    s.readStdfdLoop =
      { s with
        activeStreams := outputStreams s.stream
        outputReads := s.outputReads ++ outputStreams s.stream } :=
  foldl_doReadStdfd_of_up (outputStreams s.stream)
    (s := { s with activeStreams := outputStreams s.stream }) up

theorem readStdfdLoop_of_down (isDown : s.down = true) :
    s.readStdfdLoop = { s with activeStreams := outputStreams s.stream } :=
  foldl_doReadStdfd_of_down (outputStreams s.stream)
    (s := { s with activeStreams := outputStreams s.stream }) isDown

/-- The output of a session that is up is sealed as the session demands. -/
theorem sealed_outputPayload {bytes : Bytes}
    (succeeded : (s.outputPayload prims world stream bytes).2.failed = false) :
    Sealed prims s.payloadCrypto stream (s.outputPayload prims world stream bytes).1 := by
  rw [outputPayload] at succeeded ⊢
  rw [Sealed.eq_def]
  cases crypto : s.payloadCrypto with
  | none => exact ⟨bytes, rfl⟩
  | some crypto' =>
    rw [crypto] at succeeded
    exact ⟨bytes, world.payloadNonce, _, _, rfl, succeeded, rfl⟩

theorem leads_onEndOfStream (up : s.down = false) (taken : s.outputReads[index]? = some stream) :
    Leads prims heard s
      ({ s with outputReads := s.outputReads.eraseIdx index }.onEndOfStream settings world
        stream) := by
  obtain ⟨running, connected⟩ := up_iff.mp up
  rw [onEndOfStream]
  have sending := view_doSendMessage (s := { s with
    outputReads := s.outputReads.eraseIdx index
    activeStreams := s.activeStreams.erase stream }) world (.data stream.dataType .eos) .null up
  simp only
  generalize ({ s with
    outputReads := s.outputReads.eraseIdx index
    activeStreams := s.activeStreams.erase stream } : Session).doSendMessage world
      (.data stream.dataType .eos) .null = t at sending
  have ended : Leads prims heard s t := by
    rw [Leads]
    rcases sending with sent | failed
    · rw [sent]
      exact .single (.endStream connected taken)
    · rw [failed]
      exact .tail (.single (.dropRead index)) (.spoil (s.activeStreams.erase stream) running)
  split
  · exact ended.trans (leads_recoverChildExit prims settings world t)
  · exact ended

theorem leads_onReadStdfd (result : OutputRead) (genuine : result.genuine = true)
    (taken : s.outputReads[index]? = some stream) :
    Leads prims heard s
      ({ s with outputReads := s.outputReads.eraseIdx index }.onReadStdfd prims settings world
        stream result) := by
  have dropped : Leads prims heard s { s with outputReads := s.outputReads.eraseIdx index } :=
    .single (.dropRead index)
  have lost {errorCode : ErrorCode} (raised : errorCode.failed = true) (up : s.down = false) :
      Leads prims heard s (({ s with
        outputReads := s.outputReads.eraseIdx index
        activeStreams := s.activeStreams.erase stream } : Session).onError errorCode) := by
    rw [Leads, view_onError (s := { s with
      outputReads := s.outputReads.eraseIdx index
      activeStreams := s.activeStreams.erase stream }) raised up]
    exact .tail (.single (.dropRead index)) (.spoil (s.activeStreams.erase stream) (up_iff.mp up).1)
  rw [onReadStdfd.eq_def]
  split
  · exact dropped
  · rename_i isUp
    have up : s.down = false := Bool.eq_false_iff.mpr isUp
    cases result with
    | data bytes =>
      simp only
      split
      · exact dropped.trans (leads_onError prims _ _)
      · rename_i succeeded
        have payload := sealed_outputPayload prims world (Bool.eq_false_iff.mpr succeeded)
        rw [Leads]
        rcases view_doSendMessage (s := { s with
          outputReads := s.outputReads.eraseIdx index }) world
          (.data stream.dataType (outputPayload prims world stream bytes { s with
            outputReads := s.outputReads.eraseIdx index }).1) stream.loop up with sent | failed
        · rw [sent]
          exact .single (.output (up_iff.mp up).2 taken payload)
        · rw [failed]
          exact .tail dropped (.close (up_iff.mp up).1)
    | endOfStream => exact leads_onEndOfStream prims settings world up taken
    | ioError errorCode =>
      simp only
      split
      · exact leads_onEndOfStream prims settings world up taken
      · exact lost genuine up
    | failed errorCode => exact lost genuine up

/-! ## Opening -/

theorem view_doReadIncomingMessage (s : Session) : s.doReadIncomingMessage.view = s.view := by
  rw [doReadIncomingMessage]
  split
  · rfl
  · rfl

theorem view_doSendHeartbeat (s : Session) : (s.doSendHeartbeat settings).view = s.view := by
  rw [doSendHeartbeat]
  split
  · rfl
  · rfl

theorem view_armChildExitTimer (s : Session) : s.armChildExitTimer.view = s.view := by
  rw [armChildExitTimer]
  split
  · rfl
  · rfl

theorem leads_doSendServerHello (s : Session) :
    Leads prims heard s (s.doSendServerHello prims settings world) := by
  rw [doSendServerHello.eq_def]
  split
  · exact .refl
  · split
    · exact (leads_onError prims _ _).after rfl
    · simp only
      split
      · exact (leads_onError prims _ _).after rfl
      · split
        · exact (leads_onError prims _ _).after rfl
        · exact (leads_announce prims world _ rfl rfl).after rfl

theorem leads_doOpen (s : Session) : Leads prims heard s (s.doOpen prims settings world) := by
  rw [doOpen]
  split
  · exact .refl
  · split
    · exact leads_onError prims _ s
    · split
      · exact leads_onError prims _ s
      · rw [Leads, view_doReadIncomingMessage]
        exact leads_doSendServerHello prims settings world s

/-- The launch of a child leaves the view alone. -/
theorem view_launchChild (launch : Launch) (s : Session) :
    (s.launchChild world launch).2.view = s.view := by
  rw [launchChild.eq_def]
  split
  · rfl
  · split
    · rfl
    · simp only
      split
      · rfl
      · rfl

/-- What `on_open` does about the child determines its streams. -/
theorem leads_startChild (config : ProtocolConfig) (connecting : s.state = .connecting) :
    Leads prims heard s (s.startChild settings world config).2 ∧
      (s.startChild settings world config).2.state = .connecting := by
  rw [startChild.eq_def]
  split
  · exact ⟨.refl, connecting⟩
  · simp only
    split
    · exact ⟨.refl, connecting⟩
    · generalize launchOf settings world config _ = launch
      have launched := view_launchChild world launch { s with stream := some launch.backend }
      refine ⟨?_, (congrArg View.state launched).trans connecting⟩
      rw [Leads, launched]
      exact .single (.prepare launch.backend connecting)

theorem leads_onOpen (config : ProtocolConfig) (s : Session) :
    Leads prims heard s (s.onOpen settings world config) := by
  rw [onOpen]
  split
  · exact .refl
  · rename_i connecting
    rw [not_not] at connecting
    obtain ⟨started, state⟩ := leads_startChild prims settings world config connecting
    generalize s.startChild settings world config = result at started state
    refine started.trans ?_
    simp only
    split
    · exact leads_doSendError prims settings world _ _
    · have running : result.2.state ≠ .null := fun null => by cases state.symm.trans null
      have up : ({ result.2 with opened := true }.setState .connected).down = false :=
        up_iff.mpr ⟨nofun, nofun⟩
      have sending := view_doSendMessage world .ack .null up
      generalize ({ result.2 with opened := true }.setState .connected).doSendMessage world .ack
        .null = t at sending
      rw [runLoop, view_armChildExitTimer, view_doSendHeartbeat, view_doReadIncomingMessage]
      -- The streams are set even when the acknowledgement could not be serialised.
      rcases sending with sent | failed
      · have connected : t.state = .connected := congrArg View.state sent
        have stream : t.stream = result.2.stream := congrArg View.stream sent
        have stays : t.down = false := up_iff.mpr (by
          rw [connected]
          exact ⟨nofun, nofun⟩)
        have view : ({ t with
            activeStreams := outputStreams t.stream
            outputReads := t.outputReads ++ outputStreams t.stream } : Session).view =
            { t.view with
              activeStreams := outputStreams t.stream
              outputReads := t.view.outputReads ++ outputStreams t.stream } := rfl
        rw [readStdfdLoop_of_up stays, view, sent, stream]
        exact .single (.opened state)
      · have disconnected : t.state = .disconnected := congrArg View.state failed
        have isDown : t.down = true := by
          rw [down, disconnected]
          rfl
        have view : ({ t with activeStreams := outputStreams t.stream } : Session).view =
            { t.view with activeStreams := outputStreams t.stream } := rfl
        rw [readStdfdLoop_of_down isDown, view, failed]
        exact .single (.spoil _ running)

/-! ## The upgrade to a websocket -/

theorem leads_doProcessHttpRequest (upgrade : Bool) (authorization : Bytes) (s : Session) :
    Leads prims heard s (s.doProcessHttpRequest settings upgrade authorization) := by
  have accepted : Leads prims heard s s.doAcceptWebsocket := by
    rw [doAcceptWebsocket]
    split
    · exact .refl
    · exact .refl
  rw [doProcessHttpRequest.eq_def]
  split
  · split
    · exact accepted
    · split
      · exact .refl
      · exact accepted
  · exact .refl

theorem leads_onReadHttpRequest (result : HttpRead) (s : Session) :
    Leads prims heard s (s.onReadHttpRequest settings result) := by
  cases result with
  | endOfStream => exact leads_onClose prims _ s
  | failed errorCode => exact leads_onError prims errorCode s
  | request upgrade authorization =>
    exact leads_doProcessHttpRequest prims settings upgrade authorization s

theorem leads_onWriteHttpResponse (errorCode : ErrorCode) (s : Session) :
    Leads prims heard s (s.onWriteHttpResponse errorCode) := by
  rw [onWriteHttpResponse]
  split
  · exact leads_onError prims errorCode s
  · exact leads_onClose prims _ s

theorem leads_onAcceptWebsocket (errorCode : ErrorCode) (s : Session) :
    Leads prims heard s (s.onAcceptWebsocket prims settings world errorCode) := by
  rw [onAcceptWebsocket]
  split
  · exact .refl
  · split
    · exact leads_onError prims errorCode s
    · exact leads_doOpen prims settings world s

theorem leads_onCloseWebsocket (s : Session) : Leads prims heard s s.onCloseWebsocket := by
  rw [onCloseWebsocket]
  split
  · exact .refl
  · exact leads_onClose prims _ s

theorem leads_asyncRunInternal (null : s.state = .null) :
    Leads prims heard s (s.asyncRunInternal prims settings world) := by
  rw [asyncRunInternal.eq_def, if_neg (not_not.mpr null)]
  have armed := view_armStateTimer settings.timeoutOpen
    ({ s with handler := true }.setState .connecting)
  generalize ({ s with handler := true }.setState .connecting).armStateTimer
    settings.timeoutOpen = t at armed
  have began : Leads prims heard s t := by
    rw [Leads, armed]
    exact .single (.begin null)
  simp only
  split
  · exact began
  · exact began.trans (leads_doOpen prims settings world t)

/-- A session that runs refuses to run again. -/
theorem asyncRunInternal_of_running (running : s.state ≠ .null) :
    s.asyncRunInternal prims settings world =
      { s with completions := s.completions ++ [Error.Code.invalidState.toErrorCode] } := by
  rw [asyncRunInternal.eq_def, if_pos running]

/-! ## The messages of the client -/

theorem leads_onProcessData (errorCode : ErrorCode) (s : Session) :
    Leads prims heard s (s.onProcessData errorCode) := by
  rw [onProcessData]
  split
  · exact .refl
  · split
    · exact leads_onError prims errorCode s
    · rw [Leads, view_doReadIncomingMessage]

theorem leads_doProcessBuffer {buffer : Option Bytes} (connected : s.state = .connected)
    (decrypted : ∀ bytes, buffer = some bytes → Unsealed prims heard s.payloadCrypto bytes) :
    Leads prims heard s (s.doProcessBuffer buffer) := by
  have wrote : Leads prims heard s { s with input := s.input ++ [buffer] } :=
    .single (.write connected decrypted)
  rw [doProcessBuffer.eq_def]
  split
  · exact .refl
  · cases buffer with
    | none => exact wrote.trans (leads_onProcessData prims _ _)
    | some bytes => exact wrote

theorem leads_doProcessData (type : DataType) (payload : DataPayload)
    (connected : s.state = .connected) (hears : heard payload) :
    Leads prims heard s (s.doProcessData prims settings world type payload) := by
  rw [doProcessData.eq_def]
  split
  · exact .refl
  · split
    · exact leads_doSendError prims settings world _ s
    · split
      · exact leads_doSendError prims settings world _ s
      · rename_i encrypted crypto some_
        simp only
        split
        · exact leads_doSendError prims settings world _ s
        · rename_i succeeded
          apply leads_doProcessBuffer prims connected
          intro bytes same crypto' held
          rw [some_] at held
          cases held
          cases same
          exact ⟨encrypted, _, hears, Bool.eq_false_iff.mpr succeeded, rfl⟩
      · apply leads_doProcessBuffer prims connected
        intro bytes same
        cases same
      · exact leads_doSendError prims settings world _ s
      · rename_i plain
        apply leads_doProcessBuffer prims connected
        intro bytes _ crypto held
        cases plain.symm.trans held
      · rename_i plain
        apply leads_doProcessBuffer prims connected
        intro bytes _ crypto held
        cases plain.symm.trans held

theorem leads_resolveGrant (open_ : Open) (connecting : s.state = .connecting) :
    Leads prims heard s (s.resolveGrant settings world open_).2 := by
  rw [resolveGrant.eq_def]
  split
  · split
    · exact .single (.key _ connecting)
    · exact .refl
  · split
    · exact .refl
    · exact .refl

theorem leads_onOpenMessage (open_ : Open) (connecting : s.state = .connecting) :
    Leads prims heard s (s.onOpenMessage prims settings world open_).2 := by
  have resolved : Leads prims heard s (s.resolveGrant settings world open_).2 :=
    leads_resolveGrant prims settings world open_ connecting
  rw [onOpenMessage]
  simp only
  split
  · exact .refl
  · split
    · exact resolved
    · exact resolved.trans (leads_onOpen prims settings world _ _)

theorem leads_processMessage (message : Message)
    (running : s.state = .connecting ∨ s.state = .connected)
    (hears : ∀ type payload, message = .data type payload → heard payload) :
    Leads prims heard s (s.processMessage prims settings world message).2.2 := by
  rw [processMessage.eq_def]
  split
  · exact .refl
  · split
    · exact .refl
    · rename_i expected
      rw [Bool.not_eq_false] at expected
      cases message with
      | open_ value =>
        have connecting : s.state = .connecting := by
          simpa [isMessageExpected] using expected
        exact leads_onOpenMessage prims settings world value connecting
      | error errorCode => exact leads_cancelInternal prims settings world _ s
      | terminate => exact leads_requestTermination prims settings world s
      | data type payload =>
        have connected : s.state = .connected := by
          rcases running with connecting | connected
          · rw [connecting] at expected
            exact absurd expected Bool.false_ne_true
          · exact connected
        exact leads_doProcessData prims settings world type payload connected (hears type payload rfl)
      | parameter terminalSize =>
        cases terminalSize with
        | none | some size => exact .refl
      | heartbeat | notSet | ack | close returnCode | attach | serverHello value
      | protocolError code errorCode | clientHello => exact .refl

theorem leads_onReadIncomingMessage (message : Message)
    (running : s.state = .connecting ∨ s.state = .connected)
    (hears : ∀ type payload, message = .data type payload → heard payload) :
    Leads prims heard s (s.onReadIncomingMessage prims settings world message) := by
  have processed := leads_processMessage prims settings world message running hears
  rw [onReadIncomingMessage]
  split
  · exact .refl
  · simp only
    split
    · exact processed.trans (leads_doSendError prims settings world _ _)
    · split
      · rw [Leads, view_doReadIncomingMessage]
        exact processed
      · exact processed

theorem leads_onReadIncomingData (errorCode : ErrorCode) (message : Option Message)
    (hears : ∀ type payload, message = some (.data type payload) → heard payload) (s : Session) :
    Leads prims heard s (s.onReadIncomingData prims settings world errorCode message) := by
  rw [onReadIncomingData.eq_def]
  simp only
  split
  · exact .refl
  · rename_i up
    split
    · split
      · exact (leads_onClose prims _ _).after rfl
      · rw [Leads, view_doReadIncomingMessage]
        rfl
    · rename_i state
      split
      · exact (leads_onError prims _ _).after rfl
      · cases message with
        | none => exact (leads_onError prims _ _).after rfl
        | some message =>
          refine (leads_onReadIncomingMessage prims settings world message ?_ ?_).after rfl
          · exact running_of_up (up_of_not up) state
          · exact fun type payload same => hears type payload (congrArg some same)

/-- An operation of the queue whose handler runs is taken from what is in flight. -/
theorem view_eraseSend (index : Nat) (s : Session) :
    ({ s with sends := s.sends.eraseIdx index } : Session).view =
      { s.view with sends := s.view.sends.eraseIdx index } := by
  rw [view, view, List.eraseIdx_map]

theorem leads_onSendMessage (errorCode : ErrorCode) (taken : s.view.sends[index]? = some loop) :
    Leads prims heard s
      ({ s with sends := s.sends.eraseIdx index }.onSendMessage settings world errorCode loop) := by
  have erased := view_eraseSend index s
  have dropped : Leads prims heard s { s with sends := s.sends.eraseIdx index } := by
    rw [Leads, erased]
    exact .single (.dropSend index)
  rw [onSendMessage.eq_def]
  split
  · exact dropped
  · rename_i isUp
    split
    · exact dropped.trans (leads_onError prims errorCode _)
    · have resumed (stream : OutputStream) (same : loop = stream.loop) :
          Leads prims heard s (doReadStdfd stream { s with sends := s.sends.eraseIdx index }) := by
        rw [doReadStdfd_of_up stream (Bool.eq_false_iff.mpr isUp)]
        rw [same] at taken
        have view : ({ s with
            sends := s.sends.eraseIdx index
            outputReads := s.outputReads ++ [stream] } : Session).view =
            { s.view with
              sends := s.view.sends.eraseIdx index
              outputReads := s.view.outputReads ++ [stream] } := by
          rw [Session.view, Session.view, List.eraseIdx_map]
        rw [Leads, view]
        exact .single (.resume taken)
      split
      · exact resumed .stdOut rfl
      · exact resumed .stdErr rfl
      · rw [Leads, view_doSendHeartbeat]
        exact dropped
      · split
        · exact dropped.trans (leads_onClose prims _ _)
        · split
          · exact dropped
          · rw [Leads, view_doReadIncomingMessage]
            exact dropped
      · split
        · split
          · exact dropped.trans (leads_doSendClose prims settings world _ _)
          · exact dropped
        · exact dropped

/-! ## Steps -/

/-- The payloads that an event brings. -/
def hears (event : Event) (payload : DataPayload) : Prop :=
  ∃ errorCode type, event = .received errorCode (some (.data type payload))

/-- **Every step is a chain of effects**, unless it is refused. -/
theorem step_leads {input : Event × World} (accepted : input.1 = .run → s.state = .null)
    (brought : ∀ payload, hears input.1 payload → heard payload)
    (taken : s.step prims settings input = some t) : Leads prims heard s t := by
  obtain ⟨event, world⟩ := input
  cases event with
  | run =>
    cases taken
    exact leads_asyncRunInternal prims settings world (accepted rfl)
  | cancel =>
    cases taken
    exact leads_cancelInternal prims settings world _ s
  | timer =>
    obtain ⟨-, stepped⟩ := Option.ite_none_left_eq_some.mp taken
    cases stepped
    exact (leads_onError prims _ _).after rfl
  | heartbeat =>
    obtain ⟨-, stepped⟩ := Option.ite_none_left_eq_some.mp taken
    cases stepped
    exact (leads_announce prims world _ rfl rfl).after rfl
  | httpRead result =>
    obtain ⟨-, stepped⟩ := Option.ite_none_left_eq_some.mp taken
    cases stepped
    exact (leads_onReadHttpRequest prims settings result _).after rfl
  | httpWritten errorCode =>
    obtain ⟨-, stepped⟩ := Option.ite_none_left_eq_some.mp taken
    cases stepped
    exact (leads_onWriteHttpResponse prims errorCode _).after rfl
  | websocketAccepted errorCode =>
    obtain ⟨-, stepped⟩ := Option.ite_none_left_eq_some.mp taken
    cases stepped
    exact (leads_onAcceptWebsocket prims settings world errorCode _).after rfl
  | websocketClosed =>
    obtain ⟨-, stepped⟩ := Option.ite_none_left_eq_some.mp taken
    cases stepped
    exact (leads_onCloseWebsocket prims _).after rfl
  | queueCancelled =>
    obtain ⟨-, stepped⟩ := Option.ite_none_left_eq_some.mp taken
    cases stepped
    exact (leads_onQueueCancelled prims world _).after rfl
  | received errorCode message =>
    obtain ⟨-, stepped⟩ := Option.ite_none_right_eq_some.mp taken
    cases stepped
    refine leads_onReadIncomingData prims settings world errorCode message ?_ s
    intro type payload same
    exact brought payload ⟨errorCode, type, congrArg (Event.received errorCode) same⟩
  | sent index errorCode =>
    cases found : s.sends[index]? with
    | none =>
      rw [step] at taken
      simp only [found] at taken
      cases taken
    | some entry =>
      rw [step] at taken
      simp only [found] at taken
      cases taken
      apply leads_onSendMessage prims settings world errorCode
      rw [view, List.getElem?_map, found]
      rfl
  | outputRead index result =>
    cases found : s.outputReads[index]? with
    | none =>
      rw [step] at taken
      simp only [found] at taken
      cases taken
    | some stream =>
      rw [step] at taken
      simp only [found] at taken
      obtain ⟨genuine, stepped⟩ := Option.ite_none_left_eq_some.mp taken
      cases stepped
      exact leads_onReadStdfd prims settings world result (Bool.not_eq_false _ ▸ genuine) found
  | inputWritten errorCode =>
    obtain ⟨-, stepped⟩ := Option.ite_none_left_eq_some.mp taken
    cases stepped
    exact (leads_onProcessData prims errorCode _).after rfl
  | expireChildExit =>
    cases armed : s.childExitArmed with
    | none =>
      rw [step] at taken
      simp only [armed] at taken
      cases taken
    | some wait =>
      rw [step] at taken
      simp only [armed] at taken
      cases taken
      exact .refl
  | childExitTimer =>
    cases expired : s.childExitExpired with
    | nil =>
      rw [step] at taken
      simp only [expired] at taken
      cases taken
    | cons wait waits =>
      rw [step] at taken
      simp only [expired] at taken
      cases wait with
      | recoverChildExit =>
        cases taken
        exact (leads_recoverChildExit prims settings world _).after rfl
      | queueCancelled =>
        cases taken
        exact (leads_onQueueCancelled prims world _).after rfl
  | expireTermination =>
    cases armed : s.terminationArmed with
    | none =>
      rw [step] at taken
      simp only [armed] at taken
      cases taken
    | some forced =>
      rw [step] at taken
      simp only [armed] at taken
      cases taken
      exact .refl
  | terminationTimer =>
    cases expired : s.terminationExpired with
    | nil =>
      rw [step] at taken
      simp only [expired] at taken
      cases taken
    | cons forced waits =>
      rw [step] at taken
      simp only [expired] at taken
      cases taken
      exact (leads_onTerminationTimeout prims settings world forced _).after rfl

end

variable {p : View → Prop}

/-- **The invariant rule of sessions.** What every effect keeps holds of the view of every
session in a run, where the payloads are those that the run brings. -/
theorem view_invariant_of_run {prims : ProofPrimitives} {heard : DataPayload → Prop}
    {settings : Settings} {s : Session} (run : Library.Run (step prims settings)
      (fun _ input => ∀ payload, hears input.1 payload → heard payload) {} s)
    (initially : p (view {})) (kept : ∀ {v w : View}, Effect prims heard v w → p v → p w)
    (refused : ∀ {v : View} {completions : List ErrorCode}, p v → p { v with completions }) :
    p s.view := by
  refine Library.Run.invariant (p := fun s => p s.view) run initially ?_
  intro s event t holds brought taken
  by_cases accepted : event.1 = .run → s.state = .null
  · have chain : Leads prims heard s t := step_leads prims settings accepted brought taken
    rw [Leads] at chain
    generalize s.view = v at chain holds
    generalize t.view = w at chain
    induction chain with
    | refl => exact holds
    | tail _ last ih => exact kept last ih
  · obtain ⟨event, world⟩ := event
    obtain ⟨runs, running⟩ := Classical.not_imp.mp accepted
    cases runs
    cases taken
    rw [asyncRunInternal_of_running prims settings world running]
    exact refused holds

/-- The rule where the payloads do not matter. -/
theorem view_invariant {prims : ProofPrimitives} {settings : Settings} {s : Session}
    (reaches : Library.Reaches (step prims settings) {} s) (initially : p (view {}))
    (kept : ∀ {v w : View}, Effect prims (fun _ => True) v w → p v → p w)
    (refused : ∀ {v : View} {completions : List ErrorCode}, p v → p { v with completions }) :
    p s.view :=
  view_invariant_of_run (reaches.mono fun _ _ _ _ _ => trivial) initially kept refused

end Session

end Rstream.Webtty.Server
