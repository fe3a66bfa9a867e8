import Rstream.Webtty.Server.Draining

/-!
# What a session knows of its child

The members about the child change in few ways. `m_child` is set when the child was
started, `m_child_done` when `recover_exit` has found it exited, and the resources are
closed when there is no child, the child is done, or `recover_exit` failed; only then is
the run handler invoked. `Tended` says so of every handler but the ones that open the
session.
-/

namespace Rstream.Webtty.Server

open IoRstrm (ErrorCode)

/-- `recover_exit` finds the child exited, without an error. -/
def World.Exited (world : World) : Prop :=
  world.recoverExit.1 = true ∧ world.recoverExit.2.failed = false

namespace Session

/-- The session runs on in its state, or it ends. -/
def Proceeds (s t : Session) : Prop :=
  t.state = s.state ∨ (s.state ≠ .null ∧ s.state ≠ .disconnected) ∧
    (t.state = .disconnecting ∨ t.state = .disconnected)

namespace Proceeds

variable {s t u : Session}

theorem trans (first : Proceeds s t) (second : Proceeds t u) : Proceeds s u := by
  rcases first with same | ⟨up, past⟩
  · rcases second with sameToo | ⟨up, past⟩
    · exact .inl (sameToo.trans same)
    · rw [same] at up
      exact .inr ⟨up, past⟩
  · rcases second with sameToo | ⟨-, overToo⟩
    · rw [← sameToo] at past
      exact .inr ⟨up, past⟩
    · exact .inr ⟨up, overToo⟩

/-- No handler goes back to an earlier state. -/
theorem back (proceeds : Proceeds s t) {state : SessionState} (here : t.state = state)
    (running : state ≠ .disconnecting ∧ state ≠ .disconnected) : s.state = state := by
  rcases proceeds with same | ⟨-, disconnecting | disconnected⟩
  · exact same.symm.trans here
  · exact absurd (here.symm.trans disconnecting) running.1
  · exact absurd (here.symm.trans disconnected) running.2

theorem disconnected (proceeds : Proceeds s t) (down : s.state = .disconnected) :
    t.state = .disconnected := by
  rcases proceeds with same | ⟨up, -⟩
  · exact same.trans down
  · exact absurd down up.2

theorem null (proceeds : Proceeds s t) (null : s.state = .null) : t.state = .null := by
  rcases proceeds with same | ⟨up, -⟩
  · exact same.trans null
  · exact absurd null up.1

end Proceeds

/-- What a handler may do to the members about the child. -/
structure Tended (world : World) (s t : Session) : Prop where
  proceeds : Proceeds s t
  child : t.child = s.child
  opened : t.opened = s.opened
  returnCode : s.state ≠ .connected → t.returnCode = s.returnCode
  done : s.childDone = true → t.childDone = true
  exited : t.childDone = true → s.childDone = true ∨ world.Exited
  closed : s.resourcesClosed = true → t.resourcesClosed = true
  released : t.resourcesClosed = true → s.resourcesClosed = true ∨ t.state = .disconnected ∧
    (s.child = false ∨ t.childDone = true ∨ world.recoverExit.2.failed = true)
  handler : t.handler = false → s.handler = false ∨ t.resourcesClosed = true

namespace Tended

variable {world : World} {s t u : Session}

/-- A change of other members. -/
theorem of_eq (proceeds : Proceeds s t) (child : t.child = s.child) (opened : t.opened = s.opened)
    (returnCode : t.returnCode = s.returnCode) (childDone : t.childDone = s.childDone)
    (resourcesClosed : t.resourcesClosed = s.resourcesClosed) (handler : t.handler = s.handler) :
    Tended world s t where
  proceeds := proceeds
  child := child
  opened := opened
  returnCode _ := returnCode
  done := by
    rw [childDone]
    exact fun done => done
  exited := by
    rw [childDone]
    exact .inl
  closed := by
    rw [resourcesClosed]
    exact fun closed => closed
  released := by
    rw [resourcesClosed]
    exact .inl
  handler := by
    rw [handler]
    exact .inl

theorem same (child : t.child = s.child) (opened : t.opened = s.opened)
    (returnCode : t.returnCode = s.returnCode) (childDone : t.childDone = s.childDone)
    (resourcesClosed : t.resourcesClosed = s.resourcesClosed) (handler : t.handler = s.handler)
    (state : t.state = s.state) : Tended world s t :=
  of_eq (.inl state) child opened returnCode childDone resourcesClosed handler

theorem refl (s : Session) : Tended world s s := .same rfl rfl rfl rfl rfl rfl rfl

theorem trans (first : Tended world s t) (second : Tended world t u) : Tended world s u where
  proceeds := first.proceeds.trans second.proceeds
  child := second.child.trans first.child
  opened := second.opened.trans first.opened
  returnCode other := by
    have still : t.state ≠ .connected :=
      fun connected => other (first.proceeds.back connected (by decide))
    exact (second.returnCode still).trans (first.returnCode other)
  done done := second.done (first.done done)
  exited done := by
    rcases second.exited done with before | now
    · exact first.exited before
    · exact .inr now
  closed closed := second.closed (first.closed closed)
  released closed := by
    rcases second.released closed with before | ⟨past, cause⟩
    · rcases first.released before with earlier | ⟨past, cause⟩
      · exact .inl earlier
      · right
        refine ⟨second.proceeds.disconnected past, ?_⟩
        rcases cause with none | done | failed
        · exact .inl none
        · exact .inr (.inl (second.done done))
        · exact .inr (.inr failed)
    · right
      refine ⟨past, ?_⟩
      rcases cause with none | cause
      · exact .inl (first.child.symm.trans none)
      · exact .inr cause
  handler unset := by
    rcases second.handler unset with before | closed
    · rcases first.handler before with earlier | closed
      · exact .inl earlier
      · exact .inr (second.closed closed)
    · exact .inr closed

end Tended

section

variable (prims : ProofPrimitives) (settings : Settings) (world : World)

theorem tended_armStateTimer (timeout : UInt32) (s : Session) :
    Tended world s (s.armStateTimer timeout) := by
  rw [armStateTimer]
  split
  · exact .refl s
  · exact .same rfl rfl rfl rfl rfl rfl rfl

theorem tended_onClose (errorCode : ErrorCode) (s : Session) :
    Tended world s (s.onClose errorCode) := by
  rw [onClose]
  split
  · exact .refl s
  · rename_i up
    obtain ⟨running, up⟩ := up_of_not up
    exact .of_eq (.inr ⟨⟨running, up⟩, .inr rfl⟩) rfl rfl rfl rfl rfl rfl

theorem tended_onError (errorCode : ErrorCode) (s : Session) :
    Tended world s (s.onError errorCode) := by
  rw [onError]
  split
  · exact tended_onClose world errorCode s
  · exact .refl s

theorem tended_doSendMessage (message : Message) (loop : Loop) (s : Session) :
    Tended world s (s.doSendMessage world message loop) := by
  rw [doSendMessage]
  split
  · exact .refl s
  · split
    · exact .same rfl rfl rfl rfl rfl rfl rfl
    · exact tended_onError world _ s

/-- A session that runs is about to send its last message. -/
theorem tended_disconnecting (timeout : UInt32) {s : Session} (running : s.state ≠ .null)
    (up : s.state ≠ .disconnected) :
    Tended world s
      (({ s with terminationArmed := none }.setState .disconnecting).armStateTimer timeout) := by
  refine Tended.trans ?_ (tended_armStateTimer world timeout _)
  exact .of_eq (.inr ⟨⟨running, up⟩, .inl rfl⟩) rfl rfl rfl rfl rfl rfl

theorem tended_doSendError (errorCode : ErrorCode) (s : Session) :
    Tended world s (s.doSendError settings world errorCode) := by
  rw [doSendError]
  split
  · exact .refl s
  · rename_i running
    rw [← not_or, not_not] at running
    have last : Tended world s _ := tended_disconnecting world settings.timeoutClose
      (by rcases running with state | state <;> rw [state] <;> rintro ⟨⟩)
      (by rcases running with state | state <;> rw [state] <;> rintro ⟨⟩)
    generalize ({ s with terminationArmed := none }.setState .disconnecting).armStateTimer
      settings.timeoutClose = t at last
    refine last.trans (Tended.trans ?_ (tended_doSendMessage world _ _ _))
    exact .same rfl rfl rfl rfl rfl rfl rfl

theorem tended_doSendClose (code : Int) (s : Session) :
    Tended world s (s.doSendClose settings world code) := by
  rw [doSendClose]
  split
  · exact .refl s
  · rename_i connected
    rw [not_not] at connected
    split
    · refine (tended_disconnecting world settings.timeoutClose ?_ ?_).trans
        (tended_doSendMessage world _ _ _)
      · rw [connected]
        rintro ⟨⟩
      · rw [connected]
        rintro ⟨⟩
    · exact ⟨.inl rfl, rfl, rfl, fun other => absurd connected other, fun done => done, .inl,
        fun closed => closed, .inl, .inl⟩

theorem tended_requestProcessTermination (forced : Bool) (s : Session) :
    Tended world s (s.requestProcessTermination forced) := .same rfl rfl rfl rfl rfl rfl rfl

theorem tended_doClose (errorCode : ErrorCode) (s : Session) :
    Tended world s (s.doClose settings world errorCode) := by
  rw [doClose]
  split
  · exact .refl s
  · have armed := tended_armStateTimer world settings.timeoutClose s
    simp only
    split
    · exact armed
    · exact (armed.trans (tended_requestProcessTermination world false _)).trans
        (tended_onError world _ _)

theorem tended_cancelInternal (errorCode : ErrorCode) (s : Session) :
    Tended world s (s.cancelInternal settings world errorCode) := by
  rw [cancelInternal]
  split
  · exact .refl s
  · have marked : Tended world s { s with
        cancelRequested := true
        errorCode := if s.errorCode.failed then s.errorCode
          else if errorCode.failed then errorCode
          else Error.Code.operationAborted.toErrorCode } := .same rfl rfl rfl rfl rfl rfl rfl
    simp only
    split
    · exact marked.trans (tended_doClose settings world _ _)
    · exact marked.trans (tended_onError world _ _)
    · exact marked.trans (tended_onClose world _ _)
    · exact marked
    · exact marked

theorem tended_cancelResources (s : Session) : Tended world s s.cancelResources := by
  rw [cancelResources]
  split
  · exact .refl s
  · simp only
    split
    · exact .same rfl rfl rfl rfl rfl rfl rfl
    · exact .same rfl rfl rfl rfl rfl rfl rfl

theorem tended_closeResources {s : Session} (down : s.state = .disconnected) :
    Tended world s (s.closeResources world).2 ∧
      ((s.closeResources world).1 = true → (s.closeResources world).2.resourcesClosed = true) := by
  rw [closeResources]
  split
  · rename_i closed
    exact ⟨.refl s, fun _ => closed⟩
  · have cancelled := tended_cancelResources world s
    have downStill := cancelled.proceeds.disconnected down
    generalize s.cancelResources = t at cancelled downStill
    simp only
    split
    · rename_i lives
      split
      · exact ⟨cancelled, by rintro ⟨⟩⟩
      · rename_i settled
        split
        · rename_i failed
          refine ⟨cancelled.trans ?_, fun _ => rfl⟩
          exact ⟨.inl rfl, rfl, rfl, fun _ => rfl,
            fun done => done, .inl, fun _ => rfl, fun _ => .inr ⟨downStill, .inr (.inr failed)⟩, .inl⟩
        · rename_i passed
          refine ⟨cancelled.trans ?_, fun _ => rfl⟩
          have exited : world.Exited := by
            rw [Bool.not_eq_true] at passed
            refine ⟨?_, passed⟩
            by_contra other
            exact settled ⟨Bool.eq_false_iff.mpr other, passed⟩
          exact ⟨.inl rfl, rfl, rfl, fun _ => rfl,
            fun _ => rfl, fun _ => .inr exited, fun _ => rfl,
            fun _ => .inr ⟨downStill, .inr (.inl rfl)⟩, .inl⟩
    · rename_i idle
      refine ⟨cancelled.trans ?_, fun _ => rfl⟩
      have cause : t.child = false ∨ t.childDone = true := by
        by_contra other
        rw [not_or, Bool.not_eq_false, Bool.not_eq_true] at other
        exact idle other
      refine ⟨.inl rfl, rfl, rfl, fun _ => rfl,
        fun done => done, .inl, fun _ => rfl, fun _ => .inr ⟨downStill, ?_⟩, .inl⟩
      rcases cause with none | done
      · exact .inl none
      · exact .inr (.inl done)

theorem tended_onQueueCancelled {s : Session} (down : s.state = .disconnected) :
    Tended world s (s.onQueueCancelled world) := by
  obtain ⟨closing, closed⟩ := tended_closeResources world down
  simp only [onQueueCancelled]
  split
  · exact closing.trans (.same rfl rfl rfl rfl rfl rfl rfl)
  · rename_i past
    rw [Bool.not_eq_false] at past
    split
    · refine closing.trans ⟨.inl rfl, rfl, rfl,
        fun _ => rfl, fun done => done, .inl, fun closed => closed, .inl, fun _ => ?_⟩
      exact .inr (closed past)
    · exact closing

theorem tended_armChildExitTimer (s : Session) : Tended world s s.armChildExitTimer := by
  rw [armChildExitTimer]
  split
  · exact .refl s
  · exact .same rfl rfl rfl rfl rfl rfl rfl

/-- The child is done when `recover_exit` found it exited. -/
theorem tended_onChildExit {errorCode : ErrorCode} (code : Int)
    (exited : errorCode.failed = false → world.Exited) (s : Session) :
    Tended world s (s.onChildExit settings world errorCode code) := by
  rw [onChildExit]
  split
  · exact .refl s
  · have disarmed : Tended world s { s with childExitArmed := none } :=
      .same rfl rfl rfl rfl rfl rfl rfl
    simp only
    split
    · exact disarmed.trans (tended_doSendError settings world errorCode _)
    · rename_i passed
      refine Tended.trans ?_ (tended_doSendClose settings world code _)
      exact ⟨.inl rfl, rfl, rfl, fun _ => rfl,
        fun _ => rfl, fun _ => .inr (exited (Bool.eq_false_iff.mpr passed)), fun closed => closed,
        .inl, .inl⟩

theorem tended_recoverChildExit (s : Session) :
    Tended world s (s.recoverChildExit settings world) := by
  rw [recoverChildExit]
  split
  · exact .refl s
  · simp only
    split
    · rename_i failed
      refine tended_onChildExit settings world 0 (fun passed => ?_) s
      rw [failed] at passed
      cases passed
    · rename_i passed
      split
      · rename_i exited
        exact tended_onChildExit settings world _
          (fun _ => ⟨exited, Bool.eq_false_iff.mpr passed⟩) s
      · exact tended_armChildExitTimer world s

theorem tended_requestTermination (s : Session) :
    Tended world s (s.requestTermination settings world) := by
  rw [requestTermination]
  split
  · exact .refl s
  · have asked : Tended world s ({ s with terminationRequested := true }.requestProcessTermination
        false) := .same rfl rfl rfl rfl rfl rfl rfl
    simp only
    split
    · exact asked.trans (tended_doSendError settings world _ _)
    · exact asked.trans (.same rfl rfl rfl rfl rfl rfl rfl)

theorem tended_onTerminationTimeout (forced : Bool) (s : Session) :
    Tended world s (s.onTerminationTimeout settings world forced) := by
  have rearmed : ∀ t : Session, Tended world t (t.armTerminationTimer true) :=
    fun _ => .same rfl rfl rfl rfl rfl rfl rfl
  rw [onTerminationTimeout]
  split
  · exact .refl s
  · split
    · exact tended_doSendError settings world _ s
    · split
      · exact rearmed s
      · have asked := tended_requestProcessTermination world true s
        simp only
        split
        · exact asked.trans (tended_doSendError settings world _ _)
        · exact asked.trans (rearmed _)

theorem tended_doReadStdfd (stream : OutputStream) (s : Session) :
    Tended world s (s.doReadStdfd stream) := by
  rw [doReadStdfd]
  split
  · exact .refl s
  · exact .same rfl rfl rfl rfl rfl rfl rfl

theorem tended_onEndOfStream (stream : OutputStream) (s : Session) :
    Tended world s (s.onEndOfStream settings world stream) := by
  have ended : Tended world s { s with activeStreams := s.activeStreams.erase stream } :=
    .same rfl rfl rfl rfl rfl rfl rfl
  have told := ended.trans (tended_doSendMessage world (.data stream.dataType .eos) .null _)
  simp only [onEndOfStream]
  split
  · exact told.trans (tended_recoverChildExit settings world _)
  · exact told

theorem tended_onReadStdfd (stream : OutputStream) (result : OutputRead) (s : Session) :
    Tended world s (s.onReadStdfd prims settings world stream result) := by
  have ended : Tended world s { s with activeStreams := s.activeStreams.erase stream } :=
    .same rfl rfl rfl rfl rfl rfl rfl
  simp only [onReadStdfd]
  split
  · exact .refl s
  · cases result with
    | data bytes =>
      dsimp only
      split
      · exact tended_onError world _ s
      · exact tended_doSendMessage world _ _ s
    | endOfStream => exact tended_onEndOfStream settings world stream s
    | ioError errorCode =>
      dsimp only
      split
      · exact tended_onEndOfStream settings world stream s
      · exact ended.trans (tended_onError world _ _)
    | failed errorCode => exact ended.trans (tended_onError world _ _)

theorem tended_doSendHeartbeat (s : Session) : Tended world s (s.doSendHeartbeat settings) := by
  rw [doSendHeartbeat]
  split
  · exact .refl s
  · exact .same rfl rfl rfl rfl rfl rfl rfl

theorem tended_doReadIncomingMessage (s : Session) : Tended world s s.doReadIncomingMessage := by
  rw [doReadIncomingMessage]
  split
  · exact .refl s
  · exact .same rfl rfl rfl rfl rfl rfl rfl

theorem tended_doProcessHttpRequest (upgrade : Bool) (authorization : Bytes) (s : Session) :
    Tended world s (s.doProcessHttpRequest settings upgrade authorization) := by
  have written : Tended world s s.doWriteHttpResponse := .same rfl rfl rfl rfl rfl rfl rfl
  have accepting : Tended world s s.doAcceptWebsocket := by
    rw [doAcceptWebsocket]
    split
    · exact .refl s
    · exact .same rfl rfl rfl rfl rfl rfl rfl
  rw [doProcessHttpRequest]
  split
  · split
    · exact accepting
    · split
      · exact written
      · exact accepting
  · exact written

theorem tended_onReadHttpRequest (result : HttpRead) (s : Session) :
    Tended world s (s.onReadHttpRequest settings result) := by
  cases result with
  | endOfStream => exact tended_onClose world _ s
  | failed errorCode => exact tended_onError world _ s
  | request upgrade authorization => exact tended_doProcessHttpRequest settings world _ _ s

theorem tended_onWriteHttpResponse (errorCode : ErrorCode) (s : Session) :
    Tended world s (s.onWriteHttpResponse errorCode) := by
  rw [onWriteHttpResponse]
  split
  · exact tended_onError world _ s
  · exact tended_onClose world _ s

theorem tended_onCloseWebsocket (s : Session) : Tended world s s.onCloseWebsocket := by
  rw [onCloseWebsocket]
  split
  · exact .refl s
  · exact tended_onClose world _ s

theorem tended_doSendServerHello (s : Session) :
    Tended world s (s.doSendServerHello prims settings world) := by
  have announced : ∀ nonce, Tended world s { s with serverNonce := nonce } :=
    fun _ => .same rfl rfl rfl rfl rfl rfl rfl
  rw [doSendServerHello.eq_def]
  split
  · exact .refl s
  · split
    · exact (announced _).trans (tended_onError world _ _)
    · simp only
      split
      · exact (announced _).trans (tended_onError world _ _)
      · split
        · exact (announced _).trans (tended_onError world _ _)
        · exact (announced _).trans (tended_doSendMessage world _ _ _)

theorem tended_doOpen (s : Session) : Tended world s (s.doOpen prims settings world) := by
  rw [doOpen]
  split
  · exact .refl s
  · split
    · exact tended_onError world _ s
    · split
      · exact tended_onError world _ s
      · exact (tended_doSendServerHello prims settings world s).trans
          (tended_doReadIncomingMessage world _)

theorem tended_onAcceptWebsocket (errorCode : ErrorCode) (s : Session) :
    Tended world s (s.onAcceptWebsocket prims settings world errorCode) := by
  rw [onAcceptWebsocket]
  split
  · exact .refl s
  · split
    · exact tended_onError world _ s
    · exact tended_doOpen prims settings world s

theorem tended_onProcessData (errorCode : ErrorCode) (s : Session) :
    Tended world s (s.onProcessData errorCode) := by
  rw [onProcessData]
  split
  · exact .refl s
  · split
    · exact tended_onError world _ s
    · exact tended_doReadIncomingMessage world s

theorem tended_doProcessBuffer (buffer : Option Bytes) (s : Session) :
    Tended world s (s.doProcessBuffer buffer) := by
  simp only [doProcessBuffer]
  split
  · exact .refl s
  · cases buffer with
    | none =>
      have closed : Tended world s { s with input := s.input ++ [none] } :=
        .same rfl rfl rfl rfl rfl rfl rfl
      exact closed.trans (tended_onProcessData world _ _)
    | some bytes => exact .same rfl rfl rfl rfl rfl rfl rfl

theorem tended_doProcessData (type : DataType) (payload : DataPayload) (s : Session) :
    Tended world s (s.doProcessData prims settings world type payload) := by
  rw [doProcessData.eq_def]
  split
  · exact .refl s
  · split
    · exact tended_doSendError settings world _ s
    · cases s.payloadCrypto with
      | none =>
        cases payload with
        | notSet | data bytes | eos => exact tended_doProcessBuffer world _ s
        | encryptedData encrypted => exact tended_doSendError settings world _ s
      | some crypto =>
        cases payload with
        | notSet | data bytes => exact tended_doSendError settings world _ s
        | eos => exact tended_doProcessBuffer world _ s
        | encryptedData encrypted =>
          dsimp only
          split
          · exact tended_doSendError settings world _ s
          · exact tended_doProcessBuffer world _ s

theorem tended_onSendMessage (errorCode : ErrorCode) (loop : Loop) (s : Session) :
    Tended world s (s.onSendMessage settings world errorCode loop) := by
  rw [onSendMessage.eq_def]
  split
  · exact .refl s
  · split
    · exact tended_onError world _ s
    · cases loop with
      | null =>
        simp only
        split
        · split
          · exact tended_doSendClose settings world _ s
          · exact .refl s
        · exact .refl s
      | readStdOut | readStdErr => exact tended_doReadStdfd world _ s
      | heartbeat => exact tended_doSendHeartbeat settings world s
      | exit =>
        simp only
        split
        · exact tended_onClose world _ s
        · split
          · exact .same rfl rfl rfl rfl rfl rfl rfl
          · have marked : Tended world s { s with finalMessageSent := true } :=
              .same rfl rfl rfl rfl rfl rfl rfl
            exact marked.trans (tended_doReadIncomingMessage world _)

theorem tended_processMessage (message : Message) {s : Session} (opened : s.state ≠ .connecting) :
    Tended world s (s.processMessage prims settings world message).2.2 := by
  rw [processMessage.eq_def]
  split
  · exact .refl s
  · split
    · exact .refl s
    · rename_i expected
      cases message with
      | open_ value => simp [isMessageExpected, opened] at expected
      | error errorCode => exact tended_cancelInternal settings world _ s
      | terminate => exact tended_requestTermination settings world s
      | data type payload => exact tended_doProcessData prims settings world type payload s
      | parameter terminalSize =>
        cases terminalSize with
        | none | some size => exact .refl s
      | heartbeat | notSet | ack | close code | attach | serverHello hello
      | protocolError code errorCode | clientHello => exact .refl s

/-! ## Opening -/

/-- The session that `async_run_internal` starts. -/
def begun (s : Session) : Session := setState .connecting { s with handler := true }

/-- The session that `on_open` has started a child for. -/
def launched (backend : Backend) (launches : List Launch) (s : Session) : Session :=
  setState .connected
    { s with stream := some backend, launches, child := true, opened := true }

theorem tended_readStdfdLoop (s : Session) : Tended world s s.readStdfdLoop := by
  have loop : ∀ (streams : List OutputStream) (t : Session),
      Tended world t (streams.foldl (fun t stream => t.doReadStdfd stream) t) := by
    intro streams
    induction streams with
    | nil => exact Tended.refl
    | cons stream streams ih =>
      intro t
      exact (tended_doReadStdfd world stream t).trans (ih _)
  rw [readStdfdLoop]
  refine Tended.trans ?_ (loop _ _)
  exact .same rfl rfl rfl rfl rfl rfl rfl

theorem tended_runLoop (s : Session) : Tended world s (s.runLoop settings) :=
  (((tended_readStdfdLoop world s).trans (tended_doReadIncomingMessage world _)).trans
    (tended_doSendHeartbeat settings world _)).trans (tended_armChildExitTimer world _)

theorem startChild_cases (config : ProtocolConfig) (s : Session) :
    (s.startChild settings world config).1.failed = true ∧
        Tended world s (s.startChild settings world config).2 ∨
      ∃ backend launches, (s.startChild settings world config).1.failed = false ∧
        (s.startChild settings world config).2 =
          { s with stream := some backend, launches, child := true } := by
  rw [startChild.eq_def]
  split
  · rename_i errorCode refused
    refine .inl ⟨?_, .refl s⟩
    rw [effectiveUsername.eq_def] at refused
    split at refused
    · cases refused
    · split at refused
      · cases refused
        rfl
      · split at refused
        · cases refused
          rfl
        · cases refused
  · simp only
    split
    · rename_i raised
      exact .inl ⟨raised, .refl s⟩
    · rw [launchChild.eq_def]
      split
      · rename_i thrown _
        exact .inl ⟨thrown.property, .same rfl rfl rfl rfl rfl rfl rfl⟩
      · split
        · exact .inl ⟨rfl, .same rfl rfl rfl rfl rfl rfl rfl⟩
        · simp only
          split
          · rename_i thrown _
            exact .inl ⟨thrown.property, .same rfl rfl rfl rfl rfl rfl rfl⟩
          · exact .inr ⟨_, _, rfl, rfl⟩

theorem onOpen_cases (config : ProtocolConfig) {s : Session} (connecting : s.state = .connecting) :
    Tended world s (s.onOpen settings world config) ∨
      ∃ backend launches, s.onOpen settings world config =
        ((s.launched backend launches).doSendMessage world .ack .null).runLoop settings := by
  rw [onOpen, if_neg (not_not.mpr connecting)]
  simp only
  rcases startChild_cases settings world config s with ⟨failed, started⟩ |
    ⟨backend, launches, passed, started⟩
  · rw [if_pos failed]
    exact .inl (started.trans (tended_doSendError settings world _ _))
  · rw [if_neg (Bool.eq_false_iff.mp passed), started]
    exact .inr ⟨backend, launches, rfl⟩

/-- The session that has received the `Open` it starts a child for. -/
def admitted (payloadCrypto : Option PayloadCrypto) (s : Session) : Session :=
  { s with readInProgress := false, payloadCrypto }

/-- The session that a step opens. -/
def Opens (world : World) (settings : Settings) (s t : Session) : Prop :=
  s.state = .connecting ∧ ∃ payloadCrypto backend launches,
    t = (((s.admitted payloadCrypto).launched backend launches).doSendMessage world .ack
      .null).runLoop settings

theorem resolveGrant_eq (open_ : Open) (s : Session) :
    ∃ payloadCrypto, (s.resolveGrant settings world open_).2 = { s with payloadCrypto } := by
  obtain ⟨same, -⟩ := resolveGrant_spec settings world open_ s
  exact same

/-- What a message does in state `connecting`. -/
theorem processMessage_opens (message : Message) {s : Session}
    (connecting : s.state = .connecting) (reading : s.readInProgress = false) :
    Tended world s (s.processMessage prims settings world message).2.2 ∨
      (s.processMessage prims settings world message).1.failed = false ∧
      (s.processMessage prims settings world message).2.1 = false ∧
      Opens world settings s (s.processMessage prims settings world message).2.2 := by
  rw [processMessage.eq_def]
  split
  · exact .inl (.refl s)
  · split
    · exact .inl (.refl s)
    · rename_i expected
      rw [Bool.not_eq_false, connecting] at expected
      obtain ⟨open_, rfl⟩ := expected_connecting expected
      dsimp only
      rw [onOpenMessage]
      split
      · exact .inl (.refl s)
      · obtain ⟨payloadCrypto, same⟩ := resolveGrant_eq settings world open_ s
        have resolved : Tended world s { s with payloadCrypto } :=
          .same rfl rfl rfl rfl rfl rfl rfl
        simp only
        rw [same]
        split
        · exact .inl resolved
        · rcases onOpen_cases settings world (convert (open_.config.getD {}))
            (s := { s with payloadCrypto }) connecting with refused | ⟨backend, launches, opens⟩
          · exact .inl (resolved.trans refused)
          · refine .inr ⟨rfl, trivial, connecting, payloadCrypto, backend, launches, ?_⟩
            rw [opens, admitted, ← reading]

theorem tended_onReadIncomingMessage (message : Message) {s : Session}
    (reading : s.readInProgress = false) :
    Tended world s (s.onReadIncomingMessage prims settings world message) ∨
      Opens world settings s (s.onReadIncomingMessage prims settings world message) := by
  have reported : Tended world s (s.processMessage prims settings world message).2.2 →
      Tended world s (
        let done := s.processMessage prims settings world message
        if done.1.failed then done.2.2.doSendError settings world done.1
        else if done.2.1 then done.2.2.doReadIncomingMessage
        else done.2.2) := by
    intro processed
    simp only
    split
    · exact processed.trans (tended_doSendError settings world _ _)
    · split
      · exact processed.trans (tended_doReadIncomingMessage world _)
      · exact processed
  rw [onReadIncomingMessage]
  split
  · exact .inl (.refl s)
  · by_cases connecting : s.state = .connecting
    · rcases processMessage_opens prims settings world message connecting reading with
        processed | ⟨passed, stop, opens⟩
      · exact .inl (reported processed)
      · simp only [passed, stop, Bool.false_eq_true, if_false]
        exact .inr opens
    · exact .inl (reported (tended_processMessage prims settings world message connecting))

theorem tended_onReadIncomingData (errorCode : ErrorCode) (message : Option Message)
    (s : Session) :
    Tended world s (s.onReadIncomingData prims settings world errorCode message) ∨
      Opens world settings s (s.onReadIncomingData prims settings world errorCode message) := by
  have read : Tended world s { s with readInProgress := false } :=
    .same rfl rfl rfl rfl rfl rfl rfl
  rw [onReadIncomingData.eq_def]
  simp only
  split
  · exact .inl read
  · split
    · split
      · exact .inl (read.trans (tended_onClose world _ _))
      · exact .inl (read.trans (tended_doReadIncomingMessage world _))
    · split
      · exact .inl (read.trans (tended_onError world _ _))
      · cases message with
        | none => exact .inl (read.trans (tended_onError world _ _))
        | some message =>
          rcases tended_onReadIncomingMessage prims settings world message
            (s := { s with readInProgress := false }) rfl with kept | opens
          · exact .inl (read.trans kept)
          · exact .inr opens

theorem Opens.tended {world : World} {settings : Settings} {s t : Session}
    (opens : Opens world settings s t) : ∃ payloadCrypto backend launches,
      Tended { world with recoverExit := (false, .none) }
        ((s.admitted payloadCrypto).launched backend launches) t := by
  obtain ⟨-, payloadCrypto, backend, launches, rfl⟩ := opens
  refine ⟨payloadCrypto, backend, launches, Tended.trans ?_ (tended_runLoop settings _ _)⟩
  exact tended_doSendMessage { world with recoverExit := (false, .none) } .ack .null _

/-! ## Steps -/

theorem tended_asyncRunInternal (s : Session) :
    Tended world s (s.asyncRunInternal prims settings world) ∨
      s.state = .null ∧ Tended world s.begun (s.asyncRunInternal prims settings world) := by
  rw [asyncRunInternal]
  split
  · exact .inl (.same rfl rfl rfl rfl rfl rfl rfl)
  · rename_i null
    rw [not_not] at null
    have armed := tended_armStateTimer world settings.timeoutOpen s.begun
    rw [begun] at armed ⊢
    right
    refine ⟨null, ?_⟩
    simp only
    split
    · exact armed.trans (.same rfl rfl rfl rfl rfl rfl rfl)
    · exact armed.trans (tended_doOpen prims settings world _)

/-- **What a step does about the child.** It tends it, or it begins or opens the session. -/
theorem step_tended {s t : Session} {event : Event} (live : s.Live)
    (taken : s.step prims settings (event, world) = some t) :
    Tended world s t ∨ (s.state = .null ∧ Tended world s.begun t) ∨
      (s.readInProgress = true ∧ Opens world settings s t) := by
  cases event with
  | run =>
    cases taken
    rcases tended_asyncRunInternal prims settings world s with kept | begins
    · exact .inl kept
    · exact .inr (.inl begins)
  | cancel =>
    cases taken
    exact .inl (tended_cancelInternal settings world _ s)
  | timer =>
    obtain ⟨-, ⟨⟩⟩ := Option.ite_none_left_eq_some.mp taken
    refine .inl (Tended.trans ?_ (tended_onError world _ _))
    exact .same rfl rfl rfl rfl rfl rfl rfl
  | heartbeat =>
    obtain ⟨-, ⟨⟩⟩ := Option.ite_none_left_eq_some.mp taken
    refine .inl (Tended.trans ?_ (tended_doSendMessage world _ _ _))
    exact .same rfl rfl rfl rfl rfl rfl rfl
  | httpRead result =>
    obtain ⟨-, ⟨⟩⟩ := Option.ite_none_left_eq_some.mp taken
    refine .inl (Tended.trans ?_ (tended_onReadHttpRequest settings world _ _))
    exact .same rfl rfl rfl rfl rfl rfl rfl
  | httpWritten errorCode =>
    obtain ⟨-, ⟨⟩⟩ := Option.ite_none_left_eq_some.mp taken
    refine .inl (Tended.trans ?_ (tended_onWriteHttpResponse world _ _))
    exact .same rfl rfl rfl rfl rfl rfl rfl
  | websocketAccepted errorCode =>
    obtain ⟨-, ⟨⟩⟩ := Option.ite_none_left_eq_some.mp taken
    refine .inl (Tended.trans ?_ (tended_onAcceptWebsocket prims settings world _ _))
    exact .same rfl rfl rfl rfl rfl rfl rfl
  | websocketClosed =>
    obtain ⟨-, ⟨⟩⟩ := Option.ite_none_left_eq_some.mp taken
    refine .inl (Tended.trans ?_ (tended_onCloseWebsocket world _))
    exact .same rfl rfl rfl rfl rfl rfl rfl
  | queueCancelled =>
    obtain ⟨pending, ⟨⟩⟩ := Option.ite_none_left_eq_some.mp taken
    have down : s.state = .disconnected := disconnected_of_closing live (.inl pending)
    refine .inl (Tended.trans ?_ (tended_onQueueCancelled world down))
    exact .same rfl rfl rfl rfl rfl rfl rfl
  | received errorCode message =>
    obtain ⟨reading, ⟨⟩⟩ := Option.ite_none_right_eq_some.mp taken
    rcases tended_onReadIncomingData prims settings world errorCode message s with kept | opens
    · exact .inl kept
    · exact .inr (.inr ⟨reading, opens⟩)
  | sent index errorCode =>
    rw [step] at taken
    simp only at taken
    split at taken
    · cases taken
    · cases taken
      refine .inl (Tended.trans ?_ (tended_onSendMessage settings world _ _ _))
      exact .same rfl rfl rfl rfl rfl rfl rfl
  | outputRead index result =>
    rw [step] at taken
    simp only at taken
    split at taken
    · cases taken
    · obtain ⟨-, ⟨⟩⟩ := Option.ite_none_left_eq_some.mp taken
      refine .inl (Tended.trans ?_ (tended_onReadStdfd prims settings world _ _ _))
      exact .same rfl rfl rfl rfl rfl rfl rfl
  | inputWritten errorCode =>
    obtain ⟨-, ⟨⟩⟩ := Option.ite_none_left_eq_some.mp taken
    refine .inl (Tended.trans ?_ (tended_onProcessData world _ _))
    exact .same rfl rfl rfl rfl rfl rfl rfl
  | expireChildExit | expireTermination =>
    rw [step] at taken
    simp only at taken
    split at taken
    · cases taken
    · cases taken
      exact .inl (.same rfl rfl rfl rfl rfl rfl rfl)
  | childExitTimer =>
    cases expired : s.childExitExpired with
    | nil =>
      rw [step] at taken
      simp only [expired] at taken
      cases taken
    | cons wait waits =>
      have popped : Tended world s { s with childExitExpired := waits } :=
        .same rfl rfl rfl rfl rfl rfl rfl
      rw [step] at taken
      simp only [expired] at taken
      cases wait with
      | recoverChildExit =>
        cases taken
        exact .inl (popped.trans (tended_recoverChildExit settings world _))
      | queueCancelled =>
        cases taken
        have down : s.state = .disconnected := by
          apply disconnected_of_closing live
          rw [expired]
          exact .inr List.mem_cons_self
        refine .inl (popped.trans (tended_onQueueCancelled world ?_))
        exact down
  | terminationTimer =>
    rw [step] at taken
    simp only at taken
    split at taken
    · cases taken
    · cases taken
      refine .inl (Tended.trans ?_ (tended_onTerminationTimeout settings world _ _))
      exact .same rfl rfl rfl rfl rfl rfl rfl

end

end Session

end Rstream.Webtty.Server
