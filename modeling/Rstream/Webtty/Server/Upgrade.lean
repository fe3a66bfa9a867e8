import Rstream.Webtty.Server.Tending

/-!
# The transport before and after the opening

A session that connects waits for one thing at a time: the HTTP request, the acceptance of
the websocket, the writing of a refusal, or its first message. So when it is connected,
nothing of the upgrade is in flight any more, and as only the last message of a session
leads to the closing of the websocket, that is not in flight either (`Upgraded`).
-/

namespace Rstream.Webtty.Server

open Option
open IoRstrm (ErrorCode)

namespace Session

/-- The operations of the upgrade and the closing of the websocket that are in flight. -/
def transport (s : Session) : Nat × Nat × Nat × Nat :=
  (s.httpReads, s.httpWrites, s.websocketAccepts, s.websocketCloses)

/-! ## The handlers that leave the transport alone -/

section

variable (prims : ProofPrimitives) (settings : Settings) (world : World)

@[simp] theorem transport_setState (state : SessionState) (s : Session) :
    (s.setState state).transport = s.transport := rfl

@[simp] theorem transport_armStateTimer (timeout : UInt32) (s : Session) :
    (s.armStateTimer timeout).transport = s.transport := by
  rw [armStateTimer]
  split
  · rfl
  · rfl

@[simp] theorem transport_onClose (errorCode : ErrorCode) (s : Session) :
    (s.onClose errorCode).transport = s.transport := by
  rw [onClose]
  split
  · rfl
  · rfl

@[simp] theorem transport_onError (errorCode : ErrorCode) (s : Session) :
    (s.onError errorCode).transport = s.transport := by
  rw [onError]
  split
  · exact transport_onClose errorCode s
  · rfl

@[simp] theorem transport_doSendMessage (message : Message) (loop : Loop) (s : Session) :
    (s.doSendMessage world message loop).transport = s.transport := by
  rw [doSendMessage]
  split
  · rfl
  · split
    · rfl
    · exact transport_onError _ s

@[simp] theorem transport_doSendError (errorCode : ErrorCode) (s : Session) :
    (s.doSendError settings world errorCode).transport = s.transport := by
  rw [doSendError]
  split
  · rfl
  · simp only [transport_doSendMessage]
    exact transport_armStateTimer _ _

@[simp] theorem transport_doSendClose (code : Int) (s : Session) :
    (s.doSendClose settings world code).transport = s.transport := by
  rw [doSendClose]
  split
  · rfl
  · split
    · rw [transport_doSendMessage]
      exact transport_armStateTimer _ _
    · rfl

@[simp] theorem transport_doClose (errorCode : ErrorCode) (s : Session) :
    (s.doClose settings world errorCode).transport = s.transport := by
  rw [doClose]
  split
  · rfl
  · simp only
    split
    · exact transport_armStateTimer _ _
    · rw [transport_onError]
      exact transport_armStateTimer _ _

@[simp] theorem transport_cancelInternal (errorCode : ErrorCode) (s : Session) :
    (s.cancelInternal settings world errorCode).transport = s.transport := by
  rw [cancelInternal]
  split
  · rfl
  · simp only
    split
    · rw [transport_doClose]
      rfl
    · rw [transport_onError]
      rfl
    · rw [transport_onClose]
      rfl
    · rfl
    · rfl

@[simp] theorem transport_cancelResources (s : Session) :
    s.cancelResources.transport = s.transport := by
  rw [cancelResources]
  split
  · rfl
  · simp only
    split
    · rfl
    · rfl

@[simp] theorem transport_onQueueCancelled (s : Session) :
    (s.onQueueCancelled world).transport = s.transport := by
  have closing : (s.closeResources world).2.transport = s.transport := by
    have cancelled := transport_cancelResources s
    rw [closeResources]
    split
    · rfl
    · simp only
      split
      · split
        · exact cancelled
        · split
          · exact cancelled
          · exact cancelled
      · exact cancelled
  simp only [onQueueCancelled]
  split
  · exact closing
  · split
    · exact closing
    · exact closing

@[simp] theorem transport_armChildExitTimer (s : Session) :
    s.armChildExitTimer.transport = s.transport := by
  rw [armChildExitTimer]
  split
  · rfl
  · rfl

@[simp] theorem transport_onChildExit (errorCode : ErrorCode) (code : Int) (s : Session) :
    (s.onChildExit settings world errorCode code).transport = s.transport := by
  rw [onChildExit]
  split
  · rfl
  · simp only
    split
    · rw [transport_doSendError]
      rfl
    · rw [transport_doSendClose]
      rfl

@[simp] theorem transport_recoverChildExit (s : Session) :
    (s.recoverChildExit settings world).transport = s.transport := by
  rw [recoverChildExit]
  split
  · rfl
  · simp only
    split
    · exact transport_onChildExit settings world _ _ s
    · split
      · exact transport_onChildExit settings world _ _ s
      · exact transport_armChildExitTimer s

@[simp] theorem transport_requestTermination (s : Session) :
    (s.requestTermination settings world).transport = s.transport := by
  rw [requestTermination]
  split
  · rfl
  · simp only
    split
    · rw [transport_doSendError]
      rfl
    · rfl

@[simp] theorem transport_onTerminationTimeout (forced : Bool) (s : Session) :
    (s.onTerminationTimeout settings world forced).transport = s.transport := by
  rw [onTerminationTimeout]
  split
  · rfl
  · split
    · exact transport_doSendError settings world _ s
    · split
      · rfl
      · simp only
        split
        · rw [transport_doSendError]
          rfl
        · rfl

@[simp] theorem transport_doReadStdfd (stream : OutputStream) (s : Session) :
    (s.doReadStdfd stream).transport = s.transport := by
  rw [doReadStdfd]
  split
  · rfl
  · rfl

@[simp] theorem transport_onEndOfStream (stream : OutputStream) (s : Session) :
    (s.onEndOfStream settings world stream).transport = s.transport := by
  simp only [onEndOfStream]
  split
  · rw [transport_recoverChildExit, transport_doSendMessage]
    rfl
  · rw [transport_doSendMessage]
    rfl

@[simp] theorem transport_onReadStdfd (stream : OutputStream) (result : OutputRead) (s : Session) :
    (s.onReadStdfd prims settings world stream result).transport = s.transport := by
  simp only [onReadStdfd]
  split
  · rfl
  · cases result with
    | data bytes =>
      dsimp only
      split
      · exact transport_onError _ s
      · exact transport_doSendMessage world _ _ s
    | endOfStream => exact transport_onEndOfStream settings world stream s
    | ioError errorCode =>
      dsimp only
      split
      · exact transport_onEndOfStream settings world stream s
      · rw [transport_onError]
        rfl
    | failed errorCode =>
      dsimp only
      rw [transport_onError]
      rfl

@[simp] theorem transport_doSendHeartbeat (s : Session) :
    (s.doSendHeartbeat settings).transport = s.transport := by
  rw [doSendHeartbeat]
  split
  · rfl
  · rfl

@[simp] theorem transport_doReadIncomingMessage (s : Session) :
    s.doReadIncomingMessage.transport = s.transport := by
  rw [doReadIncomingMessage]
  split
  · rfl
  · rfl

@[simp] theorem transport_onWriteHttpResponse (errorCode : ErrorCode) (s : Session) :
    (s.onWriteHttpResponse errorCode).transport = s.transport := by
  rw [onWriteHttpResponse]
  split
  · exact transport_onError _ s
  · exact transport_onClose _ s

@[simp] theorem transport_onCloseWebsocket (s : Session) :
    s.onCloseWebsocket.transport = s.transport := by
  rw [onCloseWebsocket]
  split
  · rfl
  · exact transport_onClose _ s

@[simp] theorem transport_doOpen (s : Session) :
    (s.doOpen prims settings world).transport = s.transport := by
  have announced : (s.doSendServerHello prims settings world).transport = s.transport := by
    rw [doSendServerHello.eq_def]
    split
    · rfl
    · split
      · rw [transport_onError]
        rfl
      · simp only
        split
        · rw [transport_onError]
          rfl
        · split
          · rw [transport_onError]
            rfl
          · rw [transport_doSendMessage]
            rfl
  rw [doOpen]
  split
  · rfl
  · split
    · exact transport_onError _ s
    · split
      · exact transport_onError _ s
      · rw [transport_doReadIncomingMessage]
        exact announced

@[simp] theorem transport_onAcceptWebsocket (errorCode : ErrorCode) (s : Session) :
    (s.onAcceptWebsocket prims settings world errorCode).transport = s.transport := by
  rw [onAcceptWebsocket]
  split
  · rfl
  · split
    · exact transport_onError _ s
    · exact transport_doOpen prims settings world s

@[simp] theorem transport_onProcessData (errorCode : ErrorCode) (s : Session) :
    (s.onProcessData errorCode).transport = s.transport := by
  rw [onProcessData]
  split
  · rfl
  · split
    · exact transport_onError _ s
    · exact transport_doReadIncomingMessage s

@[simp] theorem transport_doProcessBuffer (buffer : Option Bytes) (s : Session) :
    (s.doProcessBuffer buffer).transport = s.transport := by
  simp only [doProcessBuffer]
  split
  · rfl
  · cases buffer with
    | none =>
      dsimp only
      rw [transport_onProcessData]
      rfl
    | some bytes => rfl

@[simp] theorem transport_doProcessData (type : DataType) (payload : DataPayload) (s : Session) :
    (s.doProcessData prims settings world type payload).transport = s.transport := by
  rw [doProcessData.eq_def]
  split
  · rfl
  · split
    · exact transport_doSendError settings world _ s
    · cases s.payloadCrypto with
      | none =>
        cases payload with
        | notSet | data bytes | eos => exact transport_doProcessBuffer _ s
        | encryptedData encrypted => exact transport_doSendError settings world _ s
      | some crypto =>
        cases payload with
        | notSet | data bytes => exact transport_doSendError settings world _ s
        | eos => exact transport_doProcessBuffer _ s
        | encryptedData encrypted =>
          dsimp only
          split
          · exact transport_doSendError settings world _ s
          · exact transport_doProcessBuffer _ s

@[simp] theorem transport_runLoop (s : Session) : (s.runLoop settings).transport = s.transport := by
  have loop : ∀ (streams : List OutputStream) (t : Session),
      (streams.foldl (fun t stream => t.doReadStdfd stream) t).transport = t.transport := by
    intro streams
    induction streams with
    | nil => exact fun _ => rfl
    | cons stream streams ih =>
      intro t
      rw [List.foldl_cons, ih, transport_doReadStdfd]
  rw [runLoop, transport_armChildExitTimer, transport_doSendHeartbeat,
    transport_doReadIncomingMessage, readStdfdLoop]
  exact loop _ _

theorem transport_launchChild (launch : Launch) (s : Session) :
    (s.launchChild world launch).2.transport = s.transport := by
  rw [launchChild]
  split
  · rfl
  · split
    · rfl
    · simp only
      split
      · rfl
      · rfl

@[simp] theorem transport_onOpen (config : ProtocolConfig) (s : Session) :
    (s.onOpen settings world config).transport = s.transport := by
  have started : (s.startChild settings world config).2.transport = s.transport := by
    rw [startChild]
    split
    · rfl
    · simp only
      split
      · rfl
      · exact transport_launchChild world _ _
  rw [onOpen]
  split
  · rfl
  · simp only
    split
    · rw [transport_doSendError]
      exact started
    · rw [transport_runLoop, transport_doSendMessage]
      exact started

theorem transport_onOpenMessage (open_ : Open) (s : Session) :
    (s.onOpenMessage prims settings world open_).2.transport = s.transport := by
  obtain ⟨payloadCrypto, resolved⟩ := resolveGrant_eq settings world open_ s
  have granted : (s.resolveGrant settings world open_).2.transport = s.transport := by
    rw [resolved]
    rfl
  rw [onOpenMessage]
  simp only
  split
  · rfl
  · split
    · exact granted
    · exact (transport_onOpen settings world _ _).trans granted

theorem transport_processMessage (message : Message) (s : Session) :
    (s.processMessage prims settings world message).2.2.transport = s.transport := by
  rw [processMessage.eq_def]
  split
  · rfl
  · split
    · rfl
    · cases message with
      | open_ value => exact transport_onOpenMessage prims settings world value s
      | error errorCode => exact transport_cancelInternal settings world _ s
      | terminate => exact transport_requestTermination settings world s
      | data type payload => exact transport_doProcessData prims settings world type payload s
      | parameter size =>
        cases size with
        | none | some size => rfl
      | _ => rfl

@[simp] theorem transport_onReadIncomingData (errorCode : ErrorCode) (message : Option Message)
    (s : Session) :
    (s.onReadIncomingData prims settings world errorCode message).transport = s.transport := by
  have read : ∀ (message : Message) (t : Session),
      (t.onReadIncomingMessage prims settings world message).transport = t.transport := by
    intro message t
    have processed := transport_processMessage prims settings world message t
    rw [onReadIncomingMessage]
    split
    · rfl
    · simp only
      split
      · rw [transport_doSendError]
        exact processed
      · split
        · rw [transport_doReadIncomingMessage]
          exact processed
        · exact processed
  rw [onReadIncomingData.eq_def]
  simp only
  split
  · rfl
  · split
    · split
      · exact transport_onClose _ _
      · exact transport_doReadIncomingMessage _
    · split
      · exact transport_onError _ _
      · cases message with
        | some message => exact read message _
        | none => exact transport_onError _ _

/-- Only the last message of a session leads to the closing of the websocket. -/
theorem transport_onSendMessage (errorCode : ErrorCode) {loop : Loop} (goesOn : loop ≠ .exit)
    (s : Session) :
    (s.onSendMessage settings world errorCode loop).transport = s.transport := by
  rw [onSendMessage.eq_def]
  split
  · rfl
  · split
    · exact transport_onError _ s
    · cases loop with
      | readStdOut | readStdErr => exact transport_doReadStdfd _ s
      | heartbeat => exact transport_doSendHeartbeat settings s
      | exit => exact absurd rfl goesOn
      | null =>
        dsimp only
        split
        · split
          · exact transport_doSendClose settings world _ s
          · rfl
        · rfl

/-- The events that say something about the upgrade, the closing of the websocket or the end of
the last message. -/
def transports (s : Session) : Event → Bool
  | .run | .httpRead _ | .httpWritten _ | .websocketAccepted _ | .websocketClosed => true
  | .sent index _ => decide (s.loops[index]? = some .exit)
  | _ => false

theorem step_transport {s t : Session} {event : Event} (other : s.transports event = false)
    (taken : s.step prims settings (event, world) = some t) : t.transport = s.transport := by
  cases event with
  | run | httpRead result | httpWritten errorCode | websocketAccepted errorCode | websocketClosed => cases other
  | cancel =>
    cases taken
    exact transport_cancelInternal settings world _ s
  | timer =>
    obtain ⟨-, ⟨⟩⟩ := ite_none_left_eq_some.mp taken
    exact transport_onError _ _
  | heartbeat =>
    obtain ⟨-, ⟨⟩⟩ := ite_none_left_eq_some.mp taken
    exact transport_doSendMessage world _ _ _
  | queueCancelled =>
    obtain ⟨-, ⟨⟩⟩ := ite_none_left_eq_some.mp taken
    exact transport_onQueueCancelled world _
  | received errorCode message =>
    obtain ⟨-, ⟨⟩⟩ := ite_none_right_eq_some.mp taken
    exact transport_onReadIncomingData prims settings world _ _ s
  | sent index errorCode =>
    rw [step] at taken
    simp only at taken
    split at taken
    · cases taken
    · rename_i message loop pending
      cases taken
      refine transport_onSendMessage settings world errorCode ?_ _
      rintro rfl
      refine absurd ?_ (decide_eq_false_iff_not.mp other)
      rw [List.getElem?_map, pending]
      rfl
  | outputRead index result =>
    rw [step] at taken
    simp only at taken
    split at taken
    · cases taken
    · obtain ⟨-, ⟨⟩⟩ := ite_none_left_eq_some.mp taken
      exact transport_onReadStdfd prims settings world _ _ _
  | inputWritten errorCode =>
    obtain ⟨-, ⟨⟩⟩ := ite_none_left_eq_some.mp taken
    exact transport_onProcessData _ _
  | expireChildExit | expireTermination =>
    rw [step] at taken
    simp only at taken
    split at taken
    · cases taken
    · cases taken
      rfl
  | childExitTimer =>
    rw [step] at taken
    simp only at taken
    split at taken
    · cases taken
    · split at taken
      · cases taken
        exact transport_recoverChildExit settings world _
      · cases taken
        exact transport_onQueueCancelled world _
  | terminationTimer =>
    rw [step] at taken
    simp only at taken
    split at taken
    · cases taken
    · cases taken
      exact transport_onTerminationTimeout settings world _ _

end

/-! ## One thing at a time -/

/-- The states in which a session has not begun to leave. -/
def Staying (s : Session) : Prop := s.state ≠ .disconnecting ∧ s.state ≠ .disconnected

/-- The operations that a session which connects waits for. -/
def waits (s : Session) : Nat :=
  s.httpReads + s.httpWrites + s.websocketAccepts + if s.readInProgress then 1 else 0

/-- A session that connects waits for one thing at a time, and only then. -/
structure Upgraded (s : Session) : Prop where
  null : s.state = .null → s.transport = (0, 0, 0, 0)
  connecting : s.state = .connecting → s.waits ≤ 1 ∧ s.websocketCloses = 0
  connected : s.state = .connected → s.transport = (0, 0, 0, 0)

theorem Upgraded.of_zero {s : Session} (transport : s.transport = (0, 0, 0, 0)) : s.Upgraded where
  null _ := transport
  connecting _ := by
    rw [Session.transport, Prod.mk.injEq, Prod.mk.injEq, Prod.mk.injEq] at transport
    obtain ⟨reads, writes, accepts, closes⟩ := transport
    refine ⟨?_, closes⟩
    rw [waits, reads, writes, accepts]
    split
    · exact Nat.le_refl 1
    · exact Nat.zero_le 1
  connected _ := transport

theorem Upgraded.of_late {s : Session} (late : ¬ s.Staying) : s.Upgraded where
  null here := absurd ⟨by rw [here]; decide, by rw [here]; decide⟩ late
  connecting here := absurd ⟨by rw [here]; decide, by rw [here]; decide⟩ late
  connected here := absurd ⟨by rw [here]; decide, by rw [here]; decide⟩ late

theorem Staying.cases {s : Session} (staying : s.Staying) :
    s.state = .null ∨ s.state = .connecting ∨ s.state = .connected := by
  cases here : s.state with
  | null => exact .inl rfl
  | connecting => exact .inr (.inl rfl)
  | connected => exact .inr (.inr rfl)
  | disconnecting => exact absurd here staying.1
  | disconnected => exact absurd here staying.2

theorem Proceeds.staying {s t : Session} (proceeds : Proceeds s t) (staying : t.Staying) :
    t.state = s.state := by
  rcases proceeds with same | ⟨-, disconnecting | disconnected⟩
  · exact same
  · exact absurd disconnecting staying.1
  · exact absurd disconnected staying.2

section

variable {prims : ProofPrimitives} {settings : Settings} {world : World} {s t : Session}
  {event : Event}

/-- A session that leaves does not come back. -/
theorem staying_of_step (live : s.Live) (taken : s.step prims settings (event, world) = some t)
    (staying : t.Staying) : s.Staying := by
  rcases step_tended prims settings world live taken with tended | ⟨null, -⟩ | ⟨-, connecting, -⟩
  · have same := tended.proceeds.staying staying
    rw [Staying, ← same]
    exact staying
  · rw [Staying, null]
    decide
  · rw [Staying, connecting]
    decide

/-- Nothing of the upgrade is in flight when the session reads its first message. -/
theorem Upgraded.idle (upgraded : s.Upgraded) (staying : s.Staying)
    (reading : s.state = .connecting → s.readInProgress = true) :
    s.transport = (0, 0, 0, 0) := by
  rcases staying.cases with null | connecting | connected
  · exact upgraded.null null
  · obtain ⟨single, closes⟩ := upgraded.connecting connecting
    rw [waits, if_pos (reading connecting)] at single
    have reads : s.httpReads = 0 := by omega
    have writes : s.httpWrites = 0 := by omega
    have accepts : s.websocketAccepts = 0 := by omega
    rw [transport, reads, writes, accepts, closes]
  · exact upgraded.connected connected

/-- The transport of a session that waits for an operation of the upgrade. -/
theorem Upgraded.waiting (upgraded : s.Upgraded) (staying : s.Staying)
    (pending : 0 < s.httpReads + s.httpWrites + s.websocketAccepts) :
    s.httpReads + s.httpWrites + s.websocketAccepts = 1 ∧ s.readInProgress = false ∧
      s.websocketCloses = 0 ∧ s.state = .connecting := by
  have busy : s.transport ≠ (0, 0, 0, 0) := by
    intro zero
    rw [transport, Prod.mk.injEq, Prod.mk.injEq, Prod.mk.injEq] at zero
    omega
  rcases staying.cases with null | connecting | connected
  · exact absurd (upgraded.null null) busy
  · obtain ⟨single, closes⟩ := upgraded.connecting connecting
    rw [waits] at single
    cases reading : s.readInProgress with
    | true =>
      rw [reading, if_pos rfl] at single
      omega
    | false =>
      rw [reading] at single
      exact ⟨by simp at single; omega, rfl, closes, connecting⟩
  · exact absurd (upgraded.connected connected) busy

/-- The request of the client leads to one more operation, or the session ends. -/
theorem waits_onReadHttpRequest {result : HttpRead} (genuine : result.genuine = true)
    (connecting : s.state = .connecting) :
    ¬ (s.onReadHttpRequest settings result).Staying ∨
      (s.onReadHttpRequest settings result).waits = s.waits + 1 ∧
        (s.onReadHttpRequest settings result).websocketCloses = s.websocketCloses ∧
        (s.onReadHttpRequest settings result).state = .connecting := by
  have up : s.down = false := down_ne connecting (by decide)
  have ends : ∀ errorCode, ¬ (s.onClose errorCode).Staying := by
    intro errorCode
    rw [onClose, if_neg (Bool.eq_false_iff.mp up)]
    exact fun staying => staying.2 rfl
  have writes : s.doWriteHttpResponse.waits = s.waits + 1 := by
    rw [waits, waits, doWriteHttpResponse]
    simp only
    omega
  have accepts : s.doAcceptWebsocket =
      { s with websocketAccepts := s.websocketAccepts + 1 } := by
    rw [doAcceptWebsocket, if_neg (not_not.mpr connecting)]
  have accepting : s.doAcceptWebsocket.waits = s.waits + 1 := by
    rw [accepts, waits, waits]
    simp only
    omega
  have accepted : ¬ s.doAcceptWebsocket.Staying ∨ s.doAcceptWebsocket.waits = s.waits + 1 ∧
      s.doAcceptWebsocket.websocketCloses = s.websocketCloses ∧
      s.doAcceptWebsocket.state = .connecting := by
    refine .inr ⟨accepting, ?_, ?_⟩
    · rw [accepts]
    · rw [accepts]
      exact connecting
  cases result with
  | endOfStream => exact .inl (ends _)
  | failed errorCode =>
    left
    have raised : errorCode.failed = true := genuine
    rw [onReadHttpRequest, onError, if_pos raised]
    exact ends _
  | request upgrade authorization =>
    rw [onReadHttpRequest, doProcessHttpRequest]
    split
    · split
      · exact accepted
      · split
        · exact .inr ⟨writes, rfl, connecting⟩
        · exact accepted
    · exact .inr ⟨writes, rfl, connecting⟩

theorem Upgraded.of_idle (live : s.Live) (taken : s.step prims settings (event, world) = some t)
    (idle : s.Staying → t.transport = (0, 0, 0, 0)) : t.Upgraded := by
  by_cases staying : t.Staying
  · exact .of_zero (idle (staying_of_step live taken staying))
  · exact .of_late staying

theorem Upgraded.run (upgraded : s.Upgraded) (inv : Inv settings s)
    (taken : s.step prims settings (.run, world) = some t) : t.Upgraded := by
  cases taken
  rw [asyncRunInternal]
  split
  · exact ⟨upgraded.null, upgraded.connecting, upgraded.connected⟩
  · rename_i null
    rw [not_not] at null
    have idle := upgraded.null null
    have begun : ((setState .connecting { s with handler := true }).armStateTimer
        settings.timeoutOpen).transport = (0, 0, 0, 0) := (transport_armStateTimer _ _).trans idle
    obtain ⟨timers, armed⟩ := armStateTimer_eq settings.timeoutOpen
      (setState .connecting { s with handler := true })
    simp only
    split
    · rw [armed]
      rw [transport, Prod.mk.injEq, Prod.mk.injEq, Prod.mk.injEq] at idle
      obtain ⟨reads, writes, accepts, closes⟩ := idle
      have reading := inv.idle null
      refine ⟨by rintro ⟨⟩, fun _ => ⟨?_, closes⟩, by rintro ⟨⟩⟩
      show s.httpReads + 1 + s.httpWrites + s.websocketAccepts +
        (if s.readInProgress then 1 else 0) ≤ 1
      rw [reads, writes, accepts, reading]
      decide
    · apply Upgraded.of_zero
      rw [transport_doOpen]
      exact begun

/-- A step of other handlers. -/
theorem Upgraded.frame (upgraded : s.Upgraded) (live : s.Live) (frame : Frame s t)
    (taken : s.step prims settings (event, world) = some t)
    (still : t.transport = s.transport) : t.Upgraded := by
  refine ⟨fun null => ?_, fun connecting => ?_, fun connected => ?_⟩
  · have same := frame.state.resolve_right (not_not.mpr (.inl null))
    exact still.trans (upgraded.null (same.symm.trans null))
  · have same := frame.state.resolve_right (not_not.mpr (.inr connecting))
    obtain ⟨single, closes⟩ := upgraded.connecting (same.symm.trans connecting)
    have reading := frame.reading (.inr connecting)
    rw [transport, transport, Prod.mk.injEq, Prod.mk.injEq, Prod.mk.injEq] at still
    obtain ⟨reads, writes, accepts, closesToo⟩ := still
    refine ⟨?_, closesToo.trans closes⟩
    rw [waits, reads, writes, accepts, reading]
    exact single
  · rcases step_tended prims settings world live taken with
      tended | ⟨-, tended⟩ | ⟨reading, connecting, -⟩
    · exact still.trans (upgraded.connected (tended.proceeds.back connected (by decide)))
    · cases tended.proceeds.back connected (by decide)
    · refine still.trans (upgraded.idle ?_ fun _ => reading)
      rw [Staying, connecting]
      decide

theorem step_upgraded (upgraded : s.Upgraded) (inv : Inv settings s) (live : s.Live)
    (lasts : s.Staying → .exit ∉ s.loops)
    (taken : s.step prims settings (event, world) = some t) : t.Upgraded := by
  have other (quiet : admits event = false) (still : s.transports event = false) : t.Upgraded :=
    upgraded.frame live (step_frame inv quiet taken) taken
      (step_transport prims settings world still taken)
  cases event with
  | run => exact upgraded.run inv taken
  | httpRead result =>
    obtain ⟨guard, ⟨⟩⟩ := ite_none_left_eq_some.mp taken
    obtain ⟨pending, genuine⟩ := not_or.mp guard
    by_cases staying : s.Staying
    · obtain ⟨single, reading, closes, connecting⟩ := upgraded.waiting staying (by omega)
      rcases waits_onReadHttpRequest (s := { s with httpReads := s.httpReads - 1 })
        (Bool.not_eq_false _ ▸ genuine) connecting with leaves | ⟨next, closesToo, state⟩
      · exact .of_late leaves
      · refine ⟨fun here => ?_, fun _ => ⟨?_, closesToo.trans closes⟩, fun here => ?_⟩
        · cases state.symm.trans here
        · rw [next]
          show s.httpReads - 1 + s.httpWrites + s.websocketAccepts +
            (if s.readInProgress then 1 else 0) + 1 ≤ 1
          rw [reading]
          simp only [Bool.false_eq_true, if_false]
          omega
        · cases state.symm.trans here
    · exact .of_late fun stays => staying (staying_of_step live taken stays)
  | httpWritten errorCode =>
    refine .of_idle live taken fun staying => ?_
    obtain ⟨pending, ⟨⟩⟩ := ite_none_left_eq_some.mp taken
    obtain ⟨single, -, closes, -⟩ := upgraded.waiting staying (by omega)
    rw [transport_onWriteHttpResponse, transport]
    simp only [Prod.mk.injEq]
    omega
  | websocketAccepted errorCode =>
    refine .of_idle live taken fun staying => ?_
    obtain ⟨pending, ⟨⟩⟩ := ite_none_left_eq_some.mp taken
    obtain ⟨single, -, closes, -⟩ := upgraded.waiting staying (by omega)
    rw [transport_onAcceptWebsocket, transport]
    simp only [Prod.mk.injEq]
    omega
  | websocketClosed =>
    refine .of_idle live taken fun staying => ?_
    obtain ⟨pending, -⟩ := ite_none_left_eq_some.mp taken
    have none : s.websocketCloses = 0 := by
      rcases staying.cases with null | connecting | connected
      · exact congrArg (fun transport => transport.2.2.2) (upgraded.null null)
      · exact (upgraded.connecting connecting).2
      · exact congrArg (fun transport => transport.2.2.2) (upgraded.connected connected)
    exact absurd none pending
  | received errorCode message =>
    refine .of_idle live taken fun staying => ?_
    obtain ⟨reading, -⟩ := ite_none_right_eq_some.mp taken
    rw [step_transport prims settings world rfl taken]
    exact upgraded.idle staying fun _ => reading
  | sent index errorCode =>
    by_cases staying : s.Staying
    · refine other rfl (decide_eq_false_iff_not.mpr fun last => ?_)
      exact lasts staying (List.mem_of_getElem? last)
    · exact .of_late fun stays => staying (staying_of_step live taken stays)
  | _ => exact other rfl rfl

end

/-- The last message of a session is sent when it leaves. -/
theorem exit_not_mem {prims : ProofPrimitives} {settings : Settings} {s : Session}
    (reaches : Library.Reaches (step prims settings) {} s) (staying : s.Staying) :
    .exit ∉ s.loops := by
  have stays : s.view.state ≠ .disconnecting ∧ s.view.state ≠ .disconnected →
      .exit ∉ s.view.sends := by
    refine view_invariant
      (p := fun v => v.state ≠ .disconnecting ∧ v.state ≠ .disconnected → .exit ∉ v.sends)
      reaches (fun _ => List.not_mem_nil) ?_ id
    intro v w effect kept
    cases effect with
    | dropSend index | resume taken => exact fun running mem => kept running (List.mem_of_mem_eraseIdx mem)
    | dropRead index | prepare backend connecting | key payloadCrypto connecting
    | write connected decrypted | complete errorCode handler => exact kept
    | begin null =>
      intro _
      refine kept ?_
      rw [null]
      decide
    | close running | spoil activeStreams running => exact fun running => absurd rfl running.2
    | announce running plain outside =>
      intro running mem
      rcases List.mem_append.mp mem with earlier | last
      · exact kept running earlier
      · cases List.mem_singleton.mp last
        cases outside
    | report errorCode running | finish code connected drained => exact fun running => absurd rfl running.1
    | opened connecting =>
      intro _ mem
      rcases List.mem_append.mp mem with earlier | last
      · refine kept ?_ earlier
        rw [connecting]
        decide
      · cases List.mem_singleton.mp last
    | @output _ stream _ running taken encrypted =>
      intro running mem
      rcases List.mem_append.mp mem with earlier | last
      · exact kept running earlier
      · have same := List.mem_singleton.mp last
        cases stream with
        | stdOut | stdErr => cases same
    | endStream running taken =>
      intro running mem
      rcases List.mem_append.mp mem with earlier | last
      · exact kept running earlier
      · cases List.mem_singleton.mp last
  exact stays staying

/-- In every run a session that is connected has nothing of the upgrade in flight. -/
theorem upgraded {prims : ProofPrimitives} {settings : Settings} {s : Session}
    (reaches : Library.Reaches (step prims settings) {} s) : s.Upgraded := by
  induction reaches with
  | refl => exact .of_zero rfl
  | tail earlier _ taken ih =>
    have inv : Inv settings _ :=
      earlier.invariant (inv_init settings) fun _ _ _ kept _ stepped => (step_inv kept stepped).1
    have live : Live _ :=
      earlier.invariant live_init fun _ _ _ kept _ stepped => step_live prims settings kept stepped
    exact step_upgraded ih inv live (exit_not_mem earlier) taken

end Session

end Rstream.Webtty.Server
