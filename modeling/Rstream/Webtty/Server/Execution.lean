import Rstream.Webtty.PayloadSuites
import Rstream.Webtty.Server.Session

/-!
# Execution only after authentication

A session starts a child process in `on_open` only, which runs for an `Open` that was
received in state `connecting`. The session is in that state once, before it has started
anything, and it reads messages there only after `do_open` has checked the configuration
and announced the nonce of the session (`Inv`). Everything else a session does leaves
the launches, the nonce and the early states alone (`Frame`).
-/

namespace Rstream.Webtty.Server

open Library Option
open IoRstrm (ErrorCode)

namespace Session

/-- The states before the client has opened the session. -/
def Early (s : Session) : Prop := s.state = .null ∨ s.state = .connecting

/-- What every handler but the ones that open the session does: it starts nothing, keeps the
nonce, does not go back to an early state and, if it stays in one, does not read. -/
structure Frame (s t : Session) : Prop where
  launches : t.launches = s.launches
  serverNonce : t.serverNonce = s.serverNonce
  payloadCrypto : t.payloadCrypto = s.payloadCrypto
  sent : ∀ message ∈ s.sent, message ∈ t.sent
  state : t.state = s.state ∨ ¬ t.Early
  reading : t.Early → t.readInProgress = s.readInProgress
  writing : t.Early → t.inputWrites = s.inputWrites
  exits : t.Early → ∀ entry ∈ t.sends, entry.2 = .exit → entry ∈ s.sends

namespace Frame

variable {s t u : Session}

/-- A change of other members. -/
theorem same (launches : t.launches = s.launches) (serverNonce : t.serverNonce = s.serverNonce)
    (payloadCrypto : t.payloadCrypto = s.payloadCrypto) (sent : t.sent = s.sent)
    (state : t.state = s.state) (reading : t.readInProgress = s.readInProgress)
    (writing : t.inputWrites = s.inputWrites) (sends : t.sends = s.sends) : Frame s t where
  launches := launches
  serverNonce := serverNonce
  payloadCrypto := payloadCrypto
  sent := by
    rw [sent]
    exact fun _ mem => mem
  state := .inl state
  reading _ := reading
  writing _ := writing
  exits _ := by
    rw [sends]
    exact fun _ mem _ => mem

/-- A change to a later state. -/
theorem later (launches : t.launches = s.launches) (serverNonce : t.serverNonce = s.serverNonce)
    (payloadCrypto : t.payloadCrypto = s.payloadCrypto) (sent : t.sent = s.sent)
    (late : ¬ t.Early) : Frame s t where
  launches := launches
  serverNonce := serverNonce
  payloadCrypto := payloadCrypto
  sent := by
    rw [sent]
    exact fun _ mem => mem
  state := .inr late
  reading early := absurd early late
  writing early := absurd early late
  exits early := absurd early late

theorem refl (s : Session) : Frame s s := .same rfl rfl rfl rfl rfl rfl rfl rfl

theorem early_of_early (frame : Frame s t) (early : t.Early) : s.Early := by
  rcases frame.state with kept | late
  · rw [Early, ← kept]
    exact early
  · exact absurd early late

theorem trans (first : Frame s t) (second : Frame t u) : Frame s u where
  launches := second.launches.trans first.launches
  serverNonce := second.serverNonce.trans first.serverNonce
  payloadCrypto := second.payloadCrypto.trans first.payloadCrypto
  sent message mem := second.sent message (first.sent message mem)
  state := by
    rcases second.state with kept | late
    · rw [kept, Early, kept]
      exact first.state
    · exact .inr late
  reading early := (second.reading early).trans (first.reading (second.early_of_early early))
  writing early := (second.writing early).trans (first.writing (second.early_of_early early))
  exits early entry mem isExit :=
    first.exits (second.early_of_early early) entry (second.exits early entry mem isExit) isExit

theorem not_early (frame : Frame s t) (late : ¬ s.Early) : ¬ t.Early :=
  fun early => late (frame.early_of_early early)

end Frame

theorem not_early_of_connected {s : Session} (connected : s.state = .connected) : ¬ s.Early := by
  rw [Early, connected]
  decide

/-! ## The handlers -/

section

variable (prims : ProofPrimitives) (settings : Settings) (world : World)

theorem frame_armStateTimer (timeout : UInt32) (s : Session) : Frame s (s.armStateTimer timeout) := by
  rw [armStateTimer]
  split
  · exact .refl s
  · exact .same rfl rfl rfl rfl rfl rfl rfl rfl

theorem frame_onClose (errorCode : ErrorCode) (s : Session) : Frame s (s.onClose errorCode) := by
  rw [onClose]
  split
  · exact .refl s
  · exact .later rfl rfl rfl rfl (by simp [Early, setState])

theorem frame_onError (errorCode : ErrorCode) (s : Session) : Frame s (s.onError errorCode) := by
  rw [onError]
  split
  · exact frame_onClose errorCode s
  · exact .refl s

/-- A message of the loop `exit` is sent after the early states only. -/
theorem frame_doSendMessage (message : Message) {loop : Loop} (s : Session)
    (late : loop = .exit → ¬ s.Early) : Frame s (s.doSendMessage world message loop) := by
  rw [doSendMessage]
  split
  · exact .refl s
  · split
    · refine ⟨rfl, rfl, rfl, fun _ mem => List.mem_append_left _ mem, .inl rfl, fun _ => rfl,
        fun _ => rfl, ?_⟩
      intro early entry mem isExit
      rcases List.mem_append.mp mem with old | new
      · exact old
      · rw [List.mem_singleton.mp new] at isExit
        exact absurd early (late isExit)
    · exact frame_onError _ s

/-- A session that is about to send its last message has left the early states. -/
theorem frame_disconnecting (timeout : UInt32) (s : Session) :
    Frame s (({ s with terminationArmed := none }.setState .disconnecting).armStateTimer timeout) ∧
      ¬ (({ s with terminationArmed := none }.setState .disconnecting).armStateTimer
        timeout).Early := by
  have leaves : Frame s ({ s with terminationArmed := none }.setState .disconnecting) :=
    .later rfl rfl rfl rfl (by simp [Early, setState])
  have late : ¬ ({ s with terminationArmed := none }.setState .disconnecting).Early := by
    simp [Early, setState]
  have armed := frame_armStateTimer timeout
    ({ s with terminationArmed := none }.setState .disconnecting)
  exact ⟨leaves.trans armed, armed.not_early late⟩

theorem frame_doSendError (errorCode : ErrorCode) (s : Session) :
    Frame s (s.doSendError settings world errorCode) := by
  rw [doSendError]
  split
  · exact .refl s
  · obtain ⟨frame, late⟩ := frame_disconnecting settings.timeoutClose s
    generalize ({ s with terminationArmed := none }.setState .disconnecting).armStateTimer
      settings.timeoutClose = t at frame late
    refine frame.trans (Frame.trans ?_ (frame_doSendMessage world _ _ fun _ early => late early))
    exact .same rfl rfl rfl rfl rfl rfl rfl rfl

theorem frame_doSendClose (code : Int) (s : Session) :
    Frame s (s.doSendClose settings world code) := by
  rw [doSendClose]
  split
  · exact .refl s
  · split
    · obtain ⟨frame, late⟩ := frame_disconnecting settings.timeoutClose s
      exact frame.trans (frame_doSendMessage world _ _ fun _ => late)
    · exact .same rfl rfl rfl rfl rfl rfl rfl rfl

theorem frame_requestProcessTermination (forced : Bool) (s : Session) :
    Frame s (s.requestProcessTermination forced) := .same rfl rfl rfl rfl rfl rfl rfl rfl

theorem frame_doClose (errorCode : ErrorCode) (s : Session) :
    Frame s (s.doClose settings world errorCode) := by
  rw [doClose]
  split
  · exact .refl s
  · have armed := frame_armStateTimer settings.timeoutClose s
    simp only
    split
    · exact armed
    · exact (armed.trans (frame_requestProcessTermination false _)).trans (frame_onError _ _)

theorem frame_cancelInternal (errorCode : ErrorCode) (s : Session) :
    Frame s (s.cancelInternal settings world errorCode) := by
  rw [cancelInternal]
  split
  · exact .refl s
  · have marked : Frame s { s with
        cancelRequested := true
        errorCode := if s.errorCode.failed then s.errorCode
          else if errorCode.failed then errorCode
          else Error.Code.operationAborted.toErrorCode } := .same rfl rfl rfl rfl rfl rfl rfl rfl
    simp only
    split
    · exact marked.trans (frame_doClose settings world _ _)
    · exact marked.trans (frame_onError _ _)
    · exact marked.trans (frame_onClose _ _)
    · exact marked
    · exact marked

theorem frame_cancelResources (s : Session) : Frame s s.cancelResources := by
  rw [cancelResources]
  split
  · exact .refl s
  · simp only
    split
    · exact .same rfl rfl rfl rfl rfl rfl rfl rfl
    · exact .same rfl rfl rfl rfl rfl rfl rfl rfl

theorem frame_closeResources (s : Session) : Frame s (s.closeResources world).2 := by
  rw [closeResources]
  split
  · exact .refl s
  · have cancelled := frame_cancelResources s
    simp only
    split
    · split
      · exact cancelled
      · split
        · exact cancelled.trans (.same rfl rfl rfl rfl rfl rfl rfl rfl)
        · exact cancelled.trans (.same rfl rfl rfl rfl rfl rfl rfl rfl)
    · exact cancelled.trans (.same rfl rfl rfl rfl rfl rfl rfl rfl)

theorem frame_onQueueCancelled (s : Session) : Frame s (s.onQueueCancelled world) := by
  have closed := frame_closeResources world s
  simp only [onQueueCancelled]
  split
  · exact closed.trans (.same rfl rfl rfl rfl rfl rfl rfl rfl)
  · split
    · exact closed.trans (.same rfl rfl rfl rfl rfl rfl rfl rfl)
    · exact closed

theorem frame_armChildExitTimer (s : Session) : Frame s s.armChildExitTimer := by
  rw [armChildExitTimer]
  split
  · exact .refl s
  · exact .same rfl rfl rfl rfl rfl rfl rfl rfl

theorem frame_onChildExit (errorCode : ErrorCode) (code : Int) (s : Session) :
    Frame s (s.onChildExit settings world errorCode code) := by
  rw [onChildExit]
  split
  · exact .refl s
  · have disarmed : Frame s { s with childExitArmed := none } :=
      .same rfl rfl rfl rfl rfl rfl rfl rfl
    simp only
    split
    · exact disarmed.trans (frame_doSendError settings world errorCode _)
    · refine Frame.trans ?_ (frame_doSendClose settings world code _)
      exact .same rfl rfl rfl rfl rfl rfl rfl rfl

theorem frame_recoverChildExit (s : Session) : Frame s (s.recoverChildExit settings world) := by
  rw [recoverChildExit]
  split
  · exact .refl s
  · simp only
    split
    · exact frame_onChildExit settings world _ _ s
    · split
      · exact frame_onChildExit settings world _ _ s
      · exact frame_armChildExitTimer s

theorem frame_armTerminationTimer (forced : Bool) (s : Session) :
    Frame s (s.armTerminationTimer forced) := .same rfl rfl rfl rfl rfl rfl rfl rfl

theorem frame_requestTermination (s : Session) :
    Frame s (s.requestTermination settings world) := by
  rw [requestTermination]
  split
  · exact .refl s
  · have asked : Frame s ({ s with terminationRequested := true }.requestProcessTermination
        false) := .same rfl rfl rfl rfl rfl rfl rfl rfl
    simp only
    split
    · exact asked.trans (frame_doSendError settings world _ _)
    · exact asked.trans (frame_armTerminationTimer false _)

theorem frame_onTerminationTimeout (forced : Bool) (s : Session) :
    Frame s (s.onTerminationTimeout settings world forced) := by
  rw [onTerminationTimeout]
  split
  · exact .refl s
  · split
    · exact frame_doSendError settings world _ s
    · split
      · exact frame_armTerminationTimer true s
      · have asked := frame_requestProcessTermination true s
        simp only
        split
        · exact asked.trans (frame_doSendError settings world _ _)
        · exact asked.trans (frame_armTerminationTimer true _)

theorem frame_doReadStdfd (stream : OutputStream) (s : Session) :
    Frame s (s.doReadStdfd stream) := by
  rw [doReadStdfd]
  split
  · exact .refl s
  · exact .same rfl rfl rfl rfl rfl rfl rfl rfl

theorem frame_readStdfdLoop (s : Session) : Frame s s.readStdfdLoop := by
  have loop : ∀ (streams : List OutputStream) (t : Session),
      Frame t (streams.foldl (fun t stream => t.doReadStdfd stream) t) := by
    intro streams
    induction streams with
    | nil => exact Frame.refl
    | cons stream streams ih =>
      intro t
      exact (frame_doReadStdfd stream t).trans (ih _)
  rw [readStdfdLoop]
  refine Frame.trans ?_ (loop _ _)
  exact .same rfl rfl rfl rfl rfl rfl rfl rfl

theorem frame_onEndOfStream (stream : OutputStream) (s : Session) :
    Frame s (s.onEndOfStream settings world stream) := by
  have ended : Frame s { s with activeStreams := s.activeStreams.erase stream } :=
    .same rfl rfl rfl rfl rfl rfl rfl rfl
  have told := ended.trans (frame_doSendMessage world (.data stream.dataType .eos) _
    (fun isExit : Loop.null = .exit => nomatch isExit))
  simp only [onEndOfStream]
  split
  · exact told.trans (frame_recoverChildExit settings world _)
  · exact told

theorem frame_onReadStdfd (stream : OutputStream) (result : OutputRead) (s : Session) :
    Frame s (s.onReadStdfd prims settings world stream result) := by
  have ended : Frame s { s with activeStreams := s.activeStreams.erase stream } :=
    .same rfl rfl rfl rfl rfl rfl rfl rfl
  simp only [onReadStdfd]
  split
  · exact .refl s
  · cases result with
    | data bytes =>
      dsimp only
      split
      · exact frame_onError _ s
      · apply frame_doSendMessage
        cases stream <;> exact fun isExit => nomatch isExit
    | endOfStream => exact frame_onEndOfStream settings world stream s
    | ioError errorCode =>
      dsimp only
      split
      · exact frame_onEndOfStream settings world stream s
      · exact ended.trans (frame_onError _ _)
    | failed errorCode => exact ended.trans (frame_onError _ _)

theorem frame_doSendHeartbeat (s : Session) : Frame s (s.doSendHeartbeat settings) := by
  rw [doSendHeartbeat]
  split
  · exact .refl s
  · exact .same rfl rfl rfl rfl rfl rfl rfl rfl

theorem frame_doAcceptWebsocket (s : Session) : Frame s s.doAcceptWebsocket := by
  rw [doAcceptWebsocket]
  split
  · exact .refl s
  · exact .same rfl rfl rfl rfl rfl rfl rfl rfl

theorem frame_doProcessHttpRequest (upgrade : Bool) (authorization : Bytes) (s : Session) :
    Frame s (s.doProcessHttpRequest settings upgrade authorization) := by
  have written : Frame s s.doWriteHttpResponse := .same rfl rfl rfl rfl rfl rfl rfl rfl
  rw [doProcessHttpRequest]
  split
  · split
    · exact frame_doAcceptWebsocket s
    · split
      · exact written
      · exact frame_doAcceptWebsocket s
  · exact written

theorem frame_onReadHttpRequest (result : HttpRead) (s : Session) :
    Frame s (s.onReadHttpRequest settings result) := by
  cases result with
  | endOfStream => exact frame_onClose _ s
  | failed errorCode => exact frame_onError _ s
  | request upgrade authorization => exact frame_doProcessHttpRequest settings _ _ s

theorem frame_onWriteHttpResponse (errorCode : ErrorCode) (s : Session) :
    Frame s (s.onWriteHttpResponse errorCode) := by
  rw [onWriteHttpResponse]
  split
  · exact frame_onError _ s
  · exact frame_onClose _ s

theorem frame_onCloseWebsocket (s : Session) : Frame s s.onCloseWebsocket := by
  rw [onCloseWebsocket]
  split
  · exact .refl s
  · exact frame_onClose _ s

/-! ## The handlers that read messages

They leave the session alone except that in state `connecting` they would start to
read. -/

theorem down_of_null {s : Session} (null : s.state = .null) : s.down = true := by
  rw [down, null]
  rfl

theorem frame_doReadIncomingMessage {s : Session} (opened : s.state ≠ .connecting) :
    Frame s s.doReadIncomingMessage := by
  rw [doReadIncomingMessage]
  split
  · exact .refl s
  · rename_i up
    rw [not_or] at up
    have late : ¬ s.Early := by
      rintro (null | connecting)
      · exact up.1 (down_of_null null)
      · exact opened connecting
    exact .later rfl rfl rfl rfl late

theorem frame_onProcessData (errorCode : ErrorCode) {s : Session} (opened : s.state ≠ .connecting) :
    Frame s (s.onProcessData errorCode) := by
  rw [onProcessData]
  split
  · exact .refl s
  · split
    · exact frame_onError _ s
    · exact frame_doReadIncomingMessage opened

theorem frame_doProcessBuffer (buffer : Option Bytes) {s : Session}
    (opened : s.state ≠ .connecting) : Frame s (s.doProcessBuffer buffer) := by
  simp only [doProcessBuffer]
  split
  · exact .refl s
  · rename_i up
    cases buffer with
    | none =>
      have closed : Frame s { s with input := s.input ++ [none] } :=
        .same rfl rfl rfl rfl rfl rfl rfl rfl
      exact closed.trans (frame_onProcessData _ opened)
    | some bytes =>
      have late : ¬ s.Early := by
        rintro (null | connecting)
        · exact up (down_of_null null)
        · exact opened connecting
      exact .later rfl rfl rfl rfl late

theorem frame_doProcessData (type : DataType) (payload : DataPayload) {s : Session}
    (opened : s.state ≠ .connecting) :
    Frame s (s.doProcessData prims settings world type payload) := by
  rw [doProcessData.eq_def]
  split
  · exact .refl s
  · split
    · exact frame_doSendError settings world _ s
    · cases s.payloadCrypto with
      | none =>
        cases payload with
        | notSet | data bytes | eos => exact frame_doProcessBuffer _ opened
        | encryptedData encrypted => exact frame_doSendError settings world _ s
      | some crypto =>
        cases payload with
        | notSet | data bytes => exact frame_doSendError settings world _ s
        | eos => exact frame_doProcessBuffer _ opened
        | encryptedData encrypted =>
          dsimp only
          split
          · exact frame_doSendError settings world _ s
          · exact frame_doProcessBuffer _ opened

theorem frame_onSendMessage (errorCode : ErrorCode) {loop : Loop} {s : Session}
    (opened : loop = .exit → s.state ≠ .connecting) :
    Frame s (s.onSendMessage settings world errorCode loop) := by
  rw [onSendMessage.eq_def]
  split
  · exact .refl s
  · split
    · exact frame_onError _ s
    · cases loop with
      | null =>
        simp only
        split
        · split
          · exact frame_doSendClose settings world _ s
          · exact .refl s
        · exact .refl s
      | readStdOut | readStdErr => exact frame_doReadStdfd _ s
      | heartbeat => exact frame_doSendHeartbeat settings s
      | exit =>
        simp only
        split
        · exact frame_onClose _ s
        · split
          · exact .same rfl rfl rfl rfl rfl rfl rfl rfl
          · have marked : Frame s { s with finalMessageSent := true } :=
              .same rfl rfl rfl rfl rfl rfl rfl rfl
            exact marked.trans (frame_doReadIncomingMessage (opened rfl))

theorem Frame.opened {s t : Session} (frame : Frame s t) (opened : s.state ≠ .connecting) :
    t.state ≠ .connecting := by
  intro connecting
  rcases frame.state with kept | late
  · exact opened (kept.symm.trans connecting)
  · exact late (.inr connecting)

theorem frame_processMessage (message : Message) {s : Session} (opened : s.state ≠ .connecting) :
    Frame s (s.processMessage prims settings world message).2.2 := by
  rw [processMessage.eq_def]
  split
  · exact .refl s
  · split
    · exact .refl s
    · rename_i expected
      cases message with
      | open_ value => simp [isMessageExpected, opened] at expected
      | error errorCode => exact frame_cancelInternal settings world _ s
      | terminate => exact frame_requestTermination settings world s
      | data type payload => exact frame_doProcessData prims settings world type payload opened
      | parameter terminalSize =>
        cases terminalSize with
        | none | some size => exact .refl s
      | heartbeat | notSet | ack | close code | attach | serverHello hello
      | protocolError code errorCode | clientHello => exact .refl s

theorem frame_onReadIncomingMessage (message : Message) {s : Session}
    (opened : s.state ≠ .connecting) :
    Frame s (s.onReadIncomingMessage prims settings world message) := by
  rw [onReadIncomingMessage]
  split
  · exact .refl s
  · have processed := frame_processMessage prims settings world message opened
    dsimp only
    split
    · exact processed.trans (frame_doSendError settings world _ _)
    · split
      · exact processed.trans (frame_doReadIncomingMessage (processed.opened opened))
      · exact processed

/-! ## Opening -/

end

section

variable {prims : ProofPrimitives} {settings : Settings} {world : World}

/-- The nonce of the session was announced in its `ServerHello`. -/
def Announced (settings : Settings) (s : Session) : Prop :=
  ∃ hello, .serverHello hello ∈ s.sent ∧ hello.sessionNonce = s.serverNonce ∧
    hello.sessionId = settings.sessionId

/-- The configuration passes the checks of `do_open`. -/
def Configured (settings : Settings) : Prop :=
  settings.payloadCryptoResolver = true →
    settings.endpointIdentity.isSome = true ∧ settings.requireClientProof = true

theorem not_early_onError {errorCode : ErrorCode} {s : Session} (raised : errorCode.failed = true)
    (connecting : s.state = .connecting) : ¬ (s.onError errorCode).Early := by
  have up : ¬ s.down = true := by
    rw [down, connecting]
    decide
  rw [onError, if_pos raised, onClose, if_neg up]
  simp [Early, setState]

theorem not_early_doSendError {errorCode : ErrorCode} {s : Session}
    (connecting : s.state = .connecting) : ¬ (s.doSendError settings world errorCode).Early := by
  rw [doSendError, if_neg (fun both => both.1 connecting)]
  obtain ⟨-, late⟩ := frame_disconnecting settings.timeoutClose s
  generalize ({ s with terminationArmed := none }.setState .disconnecting).armStateTimer
    settings.timeoutClose = t at late
  refine (frame_doSendMessage world _ _ ?_).not_early ?_
  · exact fun _ early => late early
  · exact fun early => late early

/-- `do_send_server_hello` draws a nonce and announces it, or fails. -/
theorem doSendServerHello_announces (prims : ProofPrimitives) (settings : Settings) (world : World)
    {s : Session} (connecting : s.state = .connecting) :
    ∃ nonce, Frame { s with serverNonce := nonce } (s.doSendServerHello prims settings world) ∧
      ((s.doSendServerHello prims settings world).Early →
        settings.endpointIdentity.isSome = true →
          Announced settings (s.doSendServerHello prims settings world)) := by
  rw [doSendServerHello]
  cases settings.endpointIdentity with
  | none => exact ⟨s.serverNonce, .refl s, fun _ present => nomatch present⟩
  | some identity =>
    cases world.serverNonce with
    | none =>
      refine ⟨List.replicate 32 0, frame_onError _ _, fun early => ?_⟩
      exact absurd early (not_early_onError rfl connecting)
    | some nonce =>
      refine ⟨nonce, ?_⟩
      dsimp only
      split
      · rename_i raised
        exact ⟨frame_onError _ _,
          fun early => absurd early (not_early_onError raised connecting)⟩
      · split
        · rename_i raised
          exact ⟨frame_onError _ _,
            fun early => absurd early (not_early_onError raised connecting)⟩
        · refine ⟨frame_doSendMessage world _ _ (fun isExit => nomatch isExit), ?_⟩
          rw [doSendMessage]
          split
          · rename_i isDown
            rw [down, connecting] at isDown
            cases isDown
          · split
            · intro _ _
              exact ⟨_, List.mem_append_right _ List.mem_cons_self, rfl, rfl⟩
            · exact fun early => absurd early (not_early_onError rfl connecting)

/-- What holds in every state of a session. -/
structure Inv (settings : Settings) (s : Session) : Prop where
  single : s.launches.length ≤ 1
  fresh : s.Early → s.launches = []
  unwritten : s.Early → s.inputWrites = 0
  exits : s.Early → ∀ entry ∈ s.sends, entry.2 ≠ .exit
  idle : s.state = .null → s.readInProgress = false
  configured : s.state = .connecting → s.readInProgress = true → Configured settings
  announced : s.state = .connecting → s.readInProgress = true →
    settings.endpointIdentity.isSome = true → Announced settings s

theorem inv_init (settings : Settings) : Inv settings {} where
  single := Nat.zero_le _
  fresh _ := rfl
  unwritten _ := rfl
  exits _ _ mem := nomatch mem
  idle _ := rfl
  configured connecting := nomatch connecting
  announced connecting := nomatch connecting

/-- After the early states only the number of launches matters. -/
theorem Inv.of_late {s : Session} (late : ¬ s.Early) (single : s.launches.length ≤ 1) :
    Inv settings s where
  single := single
  fresh early := absurd early late
  unwritten early := absurd early late
  exits early := absurd early late
  idle null := absurd (.inl null) late
  configured connecting := absurd (.inr connecting) late
  announced connecting := absurd (.inr connecting) late

theorem Announced.frame {s t : Session} (frame : Frame s t) (announced : Announced settings s) :
    Announced settings t := by
  obtain ⟨hello, mem, nonce, session⟩ := announced
  exact ⟨hello, frame.sent _ mem, nonce.trans frame.serverNonce.symm, session⟩

theorem Inv.frame {s t : Session} (frame : Frame s t) (inv : Inv settings s) : Inv settings t := by
  by_cases early : t.Early
  · have kept := frame.state.resolve_right (not_not.mpr early)
    have before := frame.early_of_early early
    have reading := frame.reading early
    refine ⟨?_, ?_, ?_, ?_, ?_, ?_, ?_⟩
    · rw [frame.launches]
      exact inv.single
    · intro _
      rw [frame.launches]
      exact inv.fresh before
    · intro _
      rw [frame.writing early]
      exact inv.unwritten before
    · intro _ entry mem isExit
      exact inv.exits before entry (frame.exits early entry mem isExit) isExit
    · intro null
      rw [reading]
      exact inv.idle (kept.symm.trans null)
    · intro connecting inProgress
      exact inv.configured (kept.symm.trans connecting) (reading.symm.trans inProgress)
    · intro connecting inProgress present
      exact (inv.announced (kept.symm.trans connecting) (reading.symm.trans inProgress)
        present).frame frame
  · apply Inv.of_late early
    rw [frame.launches]
    exact inv.single

theorem doReadIncomingMessage_eq (s : Session) :
    ∃ reading, s.doReadIncomingMessage = { s with readInProgress := reading } := by
  rw [doReadIncomingMessage]
  split
  · exact ⟨s.readInProgress, rfl⟩
  · exact ⟨true, rfl⟩

/-- `do_open` starts nothing and reads only what it may. -/
theorem doOpen_inv (prims : ProofPrimitives) (world : World) {s : Session} (inv : Inv settings s) :
    Inv settings (s.doOpen prims settings world) ∧
      (s.doOpen prims settings world).launches = s.launches := by
  rw [doOpen]
  split
  · exact ⟨inv, rfl⟩
  · rename_i connecting
    rw [not_not] at connecting
    split
    · exact ⟨inv.frame (frame_onError _ s), (frame_onError _ s).launches⟩
    · rename_i identified
      split
      · exact ⟨inv.frame (frame_onError _ s), (frame_onError _ s).launches⟩
      · rename_i required
        have configured : Configured settings := by
          intro resolver
          simp only [resolver, true_and, Bool.not_eq_false, isNone_iff_eq_none]
            at identified required
          exact ⟨isSome_iff_ne_none.mpr identified, required⟩
        obtain ⟨nonce, frame, announces⟩ :=
          doSendServerHello_announces prims settings world connecting
        generalize s.doSendServerHello prims settings world = t at frame announces
        obtain ⟨reading, same⟩ := doReadIncomingMessage_eq t
        rw [same]
        have single : t.launches.length ≤ 1 := by
          rw [frame.launches]
          exact inv.single
        refine ⟨?_, frame.launches⟩
        by_cases early : t.Early
        · have kept : t.state = s.state := frame.state.resolve_right (not_not.mpr early)
          have before : s.Early := .inr connecting
          refine ⟨?_, ?_, ?_, ?_, ?_, ?_, ?_⟩
          · exact single
          · intro _
            exact frame.launches.trans (inv.fresh before)
          · intro _
            exact (frame.writing early).trans (inv.unwritten before)
          · intro _ entry mem isExit
            exact inv.exits before entry (frame.exits early entry mem isExit) isExit
          · intro null
            rw [kept, connecting] at null
            cases null
          · intro _ _
            exact configured
          · intro _ _ present
            exact announces early present
        · exact Inv.of_late (fun now => early now) single

/-! ## The child -/

/-- `on_open` launches at most one child. -/
theorem startChild_launches (settings : Settings) (world : World) (config : ProtocolConfig)
    (s : Session) :
    ((s.startChild settings world config).2.launches = s.launches ∨
      ∃ launch, (s.startChild settings world config).2.launches = s.launches ++ [launch]) ∧
    (s.startChild settings world config).2.state = s.state ∧
    (s.startChild settings world config).2.payloadCrypto = s.payloadCrypto := by
  rw [startChild]
  split
  · exact ⟨.inl rfl, rfl, rfl⟩
  · dsimp only
    split
    · exact ⟨.inl rfl, rfl, rfl⟩
    · rw [launchChild]
      split
      · exact ⟨.inl rfl, rfl, rfl⟩
      · split
        · exact ⟨.inl rfl, rfl, rfl⟩
        · dsimp only
          split
          · exact ⟨.inr ⟨_, rfl⟩, rfl, rfl⟩
          · exact ⟨.inr ⟨_, rfl⟩, rfl, rfl⟩

/-- `on_open` leaves the early states. -/
theorem onOpen_late (settings : Settings) (world : World) (config : ProtocolConfig) {s : Session}
    (connecting : s.state = .connecting) :
    ¬ (s.onOpen settings world config).Early ∧
      (s.onOpen settings world config).launches =
        (s.startChild settings world config).2.launches ∧
      (s.onOpen settings world config).payloadCrypto = s.payloadCrypto := by
  obtain ⟨-, state, crypto⟩ := startChild_launches settings world config s
  rw [onOpen, if_neg (not_not.mpr connecting)]
  dsimp only
  generalize s.startChild settings world config = started at state crypto
  split
  · have frame := frame_doSendError settings world started.1 started.2
    exact ⟨not_early_doSendError (state.trans connecting), frame.launches,
      frame.payloadCrypto.trans crypto⟩
  · have late : ¬ ({ started.2 with opened := true }.setState .connected).Early :=
      not_early_of_connected rfl
    have acked := frame_doSendMessage world .ack
      ({ started.2 with opened := true }.setState .connected)
      (fun isExit : Loop.null = .exit => nomatch isExit)
    have looped := (acked.trans (frame_readStdfdLoop _)).trans
      (frame_doReadIncomingMessage (fun connecting => (acked.trans
        (frame_readStdfdLoop _)).not_early late (.inr connecting)))
    have frame := (looped.trans (frame_doSendHeartbeat settings _)).trans
      (frame_armChildExitTimer _)
    exact ⟨frame.not_early late, frame.launches, frame.payloadCrypto.trans crypto⟩

/-- An `Open` is admitted. It is received in state `connecting`, before anything was
launched. If proofs are required, its proof verifies under the nonce that the session
announced; if payloads are to be encrypted, proofs are required, the server has an
identity, and the crypto is what the resolver made of the grant. -/
structure Admitted (prims : ProofPrimitives) (settings : Settings) (world : World)
    (s t : Session) (open_ : Open) : Prop where
  connecting : s.state = .connecting
  fresh : s.launches = []
  verified : settings.requireClientProof = true →
    (verifyClientProof prims settings world s.serverNonce open_).failed = false
  proved : settings.requireClientProof = true → ∃ identity proof transcript,
    Proved prims settings world s.serverNonce open_ identity proof transcript
  announced : settings.requireClientProof = true → Announced settings s
  configured : settings.payloadCryptoResolver = true →
    settings.endpointIdentity.isSome = true ∧ settings.requireClientProof = true
  resolved : settings.payloadCryptoResolver = true → ∃ grant,
    open_.sessionKeyGrant = some grant ∧
      (world.payloadCryptoResolver grant).2.failed = false ∧
      t.payloadCrypto = (world.payloadCryptoResolver grant).1
  encrypted : settings.payloadCryptoResolver = true →
    (∀ grant, (world.payloadCryptoResolver grant).1 = none →
      (world.payloadCryptoResolver grant).2.failed = true) → t.payloadCrypto.isSome = true

/-- The grant of an `Open` changes nothing but the crypto. -/
theorem resolveGrant_spec (settings : Settings) (world : World) (open_ : Open) (s : Session) :
    (∃ crypto, (s.resolveGrant settings world open_).2 = { s with payloadCrypto := crypto }) ∧
      ((s.resolveGrant settings world open_).1.failed = false →
        settings.payloadCryptoResolver = true → ∃ grant,
          open_.sessionKeyGrant = some grant ∧
          (world.payloadCryptoResolver grant).2.failed = false ∧
          (s.resolveGrant settings world open_).2.payloadCrypto =
            (world.payloadCryptoResolver grant).1) := by
  rw [resolveGrant]
  cases open_.sessionKeyGrant with
  | none =>
    dsimp only
    split
    · exact ⟨⟨s.payloadCrypto, rfl⟩, fun clear => nomatch clear⟩
    · rename_i absent
      exact ⟨⟨s.payloadCrypto, rfl⟩, fun _ present => absurd present absent⟩
  | some grant =>
    dsimp only
    split
    · exact ⟨⟨_, rfl⟩, fun clear _ => ⟨grant, rfl, clear, rfl⟩⟩
    · exact ⟨⟨s.payloadCrypto, rfl⟩, fun clear => nomatch clear⟩

theorem expected_connecting {message : Message}
    (expected : isMessageExpected .connecting message = true) :
    ∃ open_, message = .open_ open_ := by
  cases message with
  | open_ value => exact ⟨value, rfl⟩
  | _ => cases expected

/-- What a session makes of a message in state `connecting`: an error, or an `Open` that it
admits. -/
theorem processMessage_connecting (prims : ProofPrimitives) (world : World) (message : Message)
    {s : Session} (fresh : s.launches = []) (connecting : s.state = .connecting)
    (configured : Configured settings)
    (announced : settings.endpointIdentity.isSome = true → Announced settings s) :
    ((s.processMessage prims settings world message).1.failed = true ∧
      (s.processMessage prims settings world message).2.2.state = .connecting ∧
      (s.processMessage prims settings world message).2.2.launches = s.launches) ∨
    ((s.processMessage prims settings world message).1.failed = false ∧
      (s.processMessage prims settings world message).2.1 = false ∧
      ¬ (s.processMessage prims settings world message).2.2.Early ∧
      (s.processMessage prims settings world message).2.2.launches.length ≤ 1 ∧
      ∃ open_, message = .open_ open_ ∧ Admitted prims settings world s
        (s.processMessage prims settings world message).2.2 open_) := by
  rw [processMessage.eq_def]
  split
  · exact .inl ⟨rfl, connecting, rfl⟩
  · split
    · exact .inl ⟨rfl, connecting, rfl⟩
    · rename_i expected
      rw [Bool.not_eq_false, connecting] at expected
      obtain ⟨open_, rfl⟩ := expected_connecting expected
      dsimp only
      rw [onOpenMessage]
      by_cases refused : (verifyClientProof prims settings world s.serverNonce open_).failed = true
      · rw [if_pos refused]
        exact .inl ⟨refused, connecting, rfl⟩
      · rw [if_neg refused]
        rw [Bool.not_eq_true] at refused
        obtain ⟨⟨crypto, same⟩, resolved⟩ := resolveGrant_spec settings world open_ s
        by_cases unresolved : (s.resolveGrant settings world open_).1.failed = true
        · dsimp only
          rw [if_pos unresolved, same]
          exact .inl ⟨unresolved, connecting, rfl⟩
        · rw [Bool.not_eq_true] at unresolved
          have granted := resolved unresolved
          have still : (s.resolveGrant settings world open_).2.state = .connecting := by
            rw [same]
            exact connecting
          have none : (s.resolveGrant settings world open_).2.launches = [] := by
            rw [same]
            exact fresh
          obtain ⟨late, launches, kept⟩ :=
            onOpen_late settings world (convert (open_.config.getD {})) still
          obtain ⟨grown, -, -⟩ := startChild_launches settings world
            (convert (open_.config.getD {})) (s.resolveGrant settings world open_).2
          dsimp only
          rw [if_neg (by rw [unresolved]; exact Bool.false_ne_true)]
          refine .inr ⟨rfl, rfl, late, ?_, open_, rfl, connecting, fresh,
            fun _ => refused, fun required => proved_of_verifyClientProof required refused, ?_,
            configured, ?_, ?_⟩
          · rw [launches]
            rcases grown with unchanged | ⟨launch, added⟩
            · rw [unchanged, none]
              exact Nat.zero_le _
            · rw [added, none]
              exact Nat.le_refl _
          · intro required
            obtain ⟨identity, proof, transcript, proved⟩ :=
              proved_of_verifyClientProof required refused
            apply announced
            rw [proved.identified]
            rfl
          · intro resolver
            obtain ⟨grant, given, clear, made⟩ := granted resolver
            exact ⟨grant, given, clear, kept.trans made⟩
          · intro resolver nullOnlyFails
            obtain ⟨grant, -, clear, made⟩ := granted resolver
            rw [kept, made, isSome_iff_ne_none]
            intro null
            rw [nullOnlyFails grant null] at clear
            cases clear

/-- A message that is received in state `connecting` ends that state. -/
theorem onReadIncomingMessage_connecting (prims : ProofPrimitives) (world : World)
    (message : Message) {s : Session} (fresh : s.launches = []) (connecting : s.state = .connecting)
    (configured : Configured settings)
    (announced : settings.endpointIdentity.isSome = true → Announced settings s) :
    ¬ (s.onReadIncomingMessage prims settings world message).Early ∧
      (s.onReadIncomingMessage prims settings world message).launches.length ≤ 1 ∧
      ((s.onReadIncomingMessage prims settings world message).launches ≠ s.launches →
        ∃ open_, message = .open_ open_ ∧ Admitted prims settings world s
          (s.onReadIncomingMessage prims settings world message) open_) := by
  have up : ¬ s.down = true := by
    rw [down, connecting]
    decide
  rw [onReadIncomingMessage, if_neg up]
  rcases processMessage_connecting prims world message fresh connecting configured announced with
    ⟨failed, still, launches⟩ | ⟨clear, stop, late, single, admitted⟩
  · have kept := (frame_doSendError settings world
      (s.processMessage prims settings world message).1
      (s.processMessage prims settings world message).2.2).launches.trans launches
    simp only [failed, if_true]
    refine ⟨not_early_doSendError still, ?_, fun changed => absurd kept changed⟩
    rw [kept, fresh]
    exact Nat.zero_le _
  · simp only [clear, stop, Bool.false_eq_true, if_false]
    exact ⟨late, single, fun _ => admitted⟩

/-- So does a read in state `connecting`, whatever it yields. -/
theorem onReadIncomingData_connecting (prims : ProofPrimitives) (world : World)
    (errorCode : ErrorCode) (message : Option Message) {s : Session} (inv : Inv settings s)
    (connecting : s.state = .connecting) (reading : s.readInProgress = true) :
    Inv settings (s.onReadIncomingData prims settings world errorCode message) ∧
      ((s.onReadIncomingData prims settings world errorCode message).launches ≠ s.launches →
        ∃ open_, errorCode.failed = false ∧ message = some (.open_ open_) ∧
          Admitted prims settings world s
            (s.onReadIncomingData prims settings world errorCode message) open_) := by
  have fresh := inv.fresh (.inr connecting)
  -- an error closes the session without a launch
  have refused : ∀ {code : ErrorCode}, code.failed = true →
      Inv settings ({ s with readInProgress := false }.onError code) ∧
        ({ s with readInProgress := false }.onError code).launches = s.launches := by
    intro code failed
    have kept := (frame_onError code { s with readInProgress := false }).launches
    refine ⟨Inv.of_late (not_early_onError failed connecting) ?_, kept⟩
    rw [kept]
    exact inv.single
  have up : ¬ Session.down { s with readInProgress := false } = true := by
    rw [down, connecting]
    decide
  have notDisconnecting : ¬ s.state = .disconnecting := by
    rw [connecting]
    decide
  rw [onReadIncomingData.eq_def]
  dsimp only
  rw [if_neg up, if_neg notDisconnecting]
  split
  · rename_i failed
    obtain ⟨kept, launches⟩ := refused failed
    exact ⟨kept, fun changed => absurd launches changed⟩
  · rename_i clear
    rw [Bool.not_eq_true] at clear
    cases message with
    | none =>
      obtain ⟨kept, launches⟩ := refused (Error.Code.failed_toErrorCode .protocolError)
      exact ⟨kept, fun changed => absurd launches changed⟩
    | some message =>
      obtain ⟨late, single, admits⟩ := onReadIncomingMessage_connecting prims world message
        (s := { s with readInProgress := false }) fresh connecting
        (inv.configured connecting reading) (inv.announced connecting reading)
      refine ⟨Inv.of_late late single, fun changed => ?_⟩
      obtain ⟨open_, rfl, admitted⟩ := admits changed
      exact ⟨open_, clear, rfl, admitted.connecting, admitted.fresh, admitted.verified,
        admitted.proved, admitted.announced, admitted.configured, admitted.resolved,
        admitted.encrypted⟩

theorem frame_onReadIncomingData (prims : ProofPrimitives) (settings : Settings) (world : World)
    (errorCode : ErrorCode) (message : Option Message) {s : Session} (late : ¬ s.Early) :
    Frame s (s.onReadIncomingData prims settings world errorCode message) := by
  have read : Frame s { s with readInProgress := false } := .later rfl rfl rfl rfl late
  have opened : s.state ≠ .connecting := fun connecting => late (.inr connecting)
  rw [onReadIncomingData.eq_def]
  dsimp only
  split
  · exact read
  · split
    · split
      · exact read.trans (frame_onClose _ _)
      · exact read.trans (frame_doReadIncomingMessage opened)
    · split
      · exact read.trans (frame_onError _ _)
      · cases message with
        | none => exact read.trans (frame_onError _ _)
        | some message =>
          exact read.trans (frame_onReadIncomingMessage prims settings world message opened)

/-! ## Runs -/

/-- A session that starts to run reads nothing yet. -/
theorem connecting_inv (timeout : UInt32) {s : Session} (inv : Inv settings s)
    (null : s.state = .null) :
    Inv settings (({ s with handler := true }.setState .connecting).armStateTimer timeout) := by
  apply Inv.frame (frame_armStateTimer timeout _)
  have idle := inv.idle null
  refine ⟨inv.single, fun _ => inv.fresh (.inl null), fun _ => inv.unwritten (.inl null),
    fun _ => inv.exits (.inl null), fun other => (nomatch other), ?_, ?_⟩
  · intro _ reading
    exact absurd (idle.symm.trans reading) Bool.false_ne_true
  · intro _ reading
    exact absurd (idle.symm.trans reading) Bool.false_ne_true

theorem asyncRunInternal_inv (prims : ProofPrimitives) (world : World) {s : Session}
    (inv : Inv settings s) :
    Inv settings (s.asyncRunInternal prims settings world) ∧
      (s.asyncRunInternal prims settings world).launches = s.launches := by
  rw [asyncRunInternal]
  split
  · refine ⟨Inv.frame ?_ inv, rfl⟩
    exact .same rfl rfl rfl rfl rfl rfl rfl rfl
  · rename_i null
    rw [not_not] at null
    have began := connecting_inv settings.timeoutOpen inv null
    have launches := (frame_armStateTimer settings.timeoutOpen
      ({ s with handler := true }.setState .connecting)).launches
    dsimp only
    split
    · refine ⟨Inv.frame ?_ began, launches⟩
      exact .same rfl rfl rfl rfl rfl rfl rfl rfl
    · obtain ⟨kept, same⟩ := doOpen_inv prims world began
      exact ⟨kept, same.trans launches⟩

theorem onAcceptWebsocket_inv (prims : ProofPrimitives) (world : World) (errorCode : ErrorCode)
    {s : Session} (inv : Inv settings s) :
    Inv settings (s.onAcceptWebsocket prims settings world errorCode) ∧
      (s.onAcceptWebsocket prims settings world errorCode).launches = s.launches := by
  rw [onAcceptWebsocket]
  split
  · exact ⟨inv, rfl⟩
  · split
    · exact ⟨inv.frame (frame_onError _ s), (frame_onError _ s).launches⟩
    · exact doOpen_inv prims world inv

/-- The completion of a send leaves the others in flight. -/
theorem frame_eraseSend (index : Nat) (s : Session) :
    Frame s { s with sends := s.sends.eraseIdx index } :=
  ⟨rfl, rfl, rfl, fun _ mem => mem, .inl rfl, fun _ => rfl, fun _ => rfl,
    fun _ _ mem _ => List.mem_of_mem_eraseIdx mem⟩

/-- The events whose handlers may begin to read or open the session. -/
def admits : Event → Bool
  | .run | .websocketAccepted _ | .received _ _ => true
  | _ => false

/-- Every other handler leaves the opening of the session alone. -/
theorem step_frame {s t : Session} {event : Event} {world : World} (inv : Inv settings s)
    (other : admits event = false)
    (stepped : s.step prims settings (event, world) = some t) : Frame s t := by
  cases event with
  | run | websocketAccepted errorCode | received errorCode message => cases other
  | cancel =>
    cases stepped
    exact frame_cancelInternal settings world _ s
  | timer =>
    obtain ⟨-, ⟨⟩⟩ := ite_none_left_eq_some.mp stepped
    refine Frame.trans ?_ (frame_onError _ _)
    exact .same rfl rfl rfl rfl rfl rfl rfl rfl
  | heartbeat =>
    obtain ⟨-, ⟨⟩⟩ := ite_none_left_eq_some.mp stepped
    refine Frame.trans ?_ (frame_doSendMessage world _ _ ?_)
    · exact .same rfl rfl rfl rfl rfl rfl rfl rfl
    · exact fun isExit => nomatch isExit
  | httpRead result =>
    obtain ⟨-, ⟨⟩⟩ := ite_none_left_eq_some.mp stepped
    refine Frame.trans ?_ (frame_onReadHttpRequest settings result _)
    exact .same rfl rfl rfl rfl rfl rfl rfl rfl
  | httpWritten errorCode =>
    obtain ⟨-, ⟨⟩⟩ := ite_none_left_eq_some.mp stepped
    refine Frame.trans ?_ (frame_onWriteHttpResponse errorCode _)
    exact .same rfl rfl rfl rfl rfl rfl rfl rfl
  | websocketClosed =>
    obtain ⟨-, ⟨⟩⟩ := ite_none_left_eq_some.mp stepped
    refine Frame.trans ?_ (frame_onCloseWebsocket _)
    exact .same rfl rfl rfl rfl rfl rfl rfl rfl
  | queueCancelled =>
    obtain ⟨-, ⟨⟩⟩ := ite_none_left_eq_some.mp stepped
    refine Frame.trans ?_ (frame_onQueueCancelled world _)
    exact .same rfl rfl rfl rfl rfl rfl rfl rfl
  | sent index errorCode =>
    dsimp only [step] at stepped
    split at stepped
    · cases stepped
    · rename_i message loop pending
      cases stepped
      refine Frame.trans (frame_eraseSend index s) (frame_onSendMessage settings world errorCode ?_)
      rintro rfl connecting
      exact inv.exits (.inr connecting) _ (List.mem_of_getElem? pending) rfl
  | outputRead index result =>
    dsimp only [step] at stepped
    split at stepped
    · cases stepped
    · obtain ⟨-, ⟨⟩⟩ := ite_none_left_eq_some.mp stepped
      refine Frame.trans ?_ (frame_onReadStdfd prims settings world _ result _)
      exact .same rfl rfl rfl rfl rfl rfl rfl rfl
  | inputWritten errorCode =>
    obtain ⟨pending, ⟨⟩⟩ := ite_none_left_eq_some.mp stepped
    have late : ¬ s.Early := fun early => pending (inv.unwritten early)
    have written : Frame s { s with inputWrites := s.inputWrites - 1 } :=
      .later rfl rfl rfl rfl late
    exact written.trans (frame_onProcessData errorCode fun connecting => late (.inr connecting))
  | expireChildExit | expireTermination =>
    dsimp only [step] at stepped
    split at stepped
    · cases stepped
    · cases stepped
      exact .same rfl rfl rfl rfl rfl rfl rfl rfl
  | childExitTimer =>
    dsimp only [step] at stepped
    split at stepped
    · cases stepped
    · split at stepped
      · cases stepped
        refine Frame.trans ?_ (frame_recoverChildExit settings world _)
        exact .same rfl rfl rfl rfl rfl rfl rfl rfl
      · cases stepped
        refine Frame.trans ?_ (frame_onQueueCancelled world _)
        exact .same rfl rfl rfl rfl rfl rfl rfl rfl
  | terminationTimer =>
    dsimp only [step] at stepped
    split at stepped
    · cases stepped
    · cases stepped
      refine Frame.trans ?_ (frame_onTerminationTimeout settings world _ _)
      exact .same rfl rfl rfl rfl rfl rfl rfl rfl

/-- A step keeps the invariant, and launches a child only for an `Open` that it admits. -/
theorem step_inv {s t : Session} {input : Event × World} (inv : Inv settings s)
    (stepped : s.step prims settings input = some t) :
    Inv settings t ∧ (t.launches ≠ s.launches → ∃ errorCode open_,
      input.1 = .received errorCode (some (.open_ open_)) ∧ errorCode.failed = false ∧
        Admitted prims settings input.2 s t open_) := by
  obtain ⟨event, world⟩ := input
  have framed : Frame s t → Inv settings t ∧ (t.launches ≠ s.launches → ∃ errorCode open_,
      event = .received errorCode (some (.open_ open_)) ∧ errorCode.failed = false ∧
        Admitted prims settings world s t open_) :=
    fun frame => ⟨inv.frame frame, fun changed => absurd frame.launches changed⟩
  cases event with
  | run =>
    obtain ⟨kept, launches⟩ := asyncRunInternal_inv prims world inv
    cases stepped
    exact ⟨kept, fun changed => absurd launches changed⟩
  | websocketAccepted errorCode =>
    obtain ⟨-, ⟨⟩⟩ := ite_none_left_eq_some.mp stepped
    have taken : Frame s { s with websocketAccepts := s.websocketAccepts - 1 } :=
      .same rfl rfl rfl rfl rfl rfl rfl rfl
    obtain ⟨kept, launches⟩ := onAcceptWebsocket_inv prims world errorCode (inv.frame taken)
    exact ⟨kept, fun changed => absurd launches changed⟩
  | received errorCode message =>
    obtain ⟨reading, ⟨⟩⟩ := ite_none_right_eq_some.mp stepped
    by_cases connecting : s.state = .connecting
    · obtain ⟨kept, admits⟩ :=
        onReadIncomingData_connecting prims world errorCode message inv connecting reading
      refine ⟨kept, fun changed => ?_⟩
      obtain ⟨open_, clear, rfl, admitted⟩ := admits changed
      exact ⟨errorCode, open_, rfl, clear, admitted⟩
    · have late : ¬ s.Early := by
        rintro (null | connecting')
        · exact absurd ((inv.idle null).symm.trans reading) Bool.false_ne_true
        · exact connecting connecting'
      exact framed (frame_onReadIncomingData prims settings world errorCode message late)
  | _ => exact framed (step_frame inv rfl stepped)

/-- **No execution without authentication.** In every run a session starts at most one child,
and only when it admits an `Open`. -/
theorem child_started_authenticated {prims : ProofPrimitives} {settings : Settings} {s : Session}
    (run : Reaches (step prims settings) {} s) :
    s.launches.length ≤ 1 ∧
      ∀ input t, s.step prims settings input = some t → t.launches ≠ s.launches →
        ∃ errorCode open_, input.1 = .received errorCode (some (.open_ open_)) ∧
          errorCode.failed = false ∧ Admitted prims settings input.2 s t open_ := by
  have inv : Inv settings s :=
    run.invariant (inv_init settings) fun _ _ _ kept _ stepped => (step_inv kept stepped).1
  exact ⟨inv.single, fun _ _ stepped => (step_inv inv stepped).2⟩

end

end Session

/-! ## A session that is opened -/

/-- Primitives that accept one signature. -/
def sampleProofPrims : ProofPrimitives where
  toPrimitives := smallPrims
  serializeGrant grant := some grant.payloadKeyId
  serializeConfig config := some config.cmdArgs.flatten
  verifyDigestSignature publicKey digest signature :=
    if signature = publicKey ++ digest then .none else Error.Code.cryptoError

/-- The identity of a server. -/
def sampleIdentity : EndpointIdentity where
  encryption := ⟨[1], List.replicate 32 5, List.replicate 32 5⟩
  signing := ⟨[2], [6], [6]⟩

/-- A server that requires a proof and encrypts; one client is authorised. -/
def sampleSettings : Settings where
  payloadCryptoResolver := true
  endpointIdentity := some sampleIdentity
  requireClientProof := true
  authorizedClientSigningKeys := [([3], [4])]
  sessionId := [8]

/-- The surroundings, at the first second of 2024. -/
def sampleWorld : World where
  now := 1704067200 * 1000000000
  serverNonce := some (List.replicate 32 9)
  signDigest privateKey digest := (privateKey ++ digest, .none)
  payloadCryptoResolver grant :=
    (some ⟨.aes256Gcm, List.replicate 32 7, grant.payloadKeyId, [], grant.keyEnvelopeSuite, []⟩,
      .none)
  getUserInfo _ := ({ shell := bytesFromString "/bin/sh" }, .none)

/-- The proof of the client, with a hash and its signature. -/
def sampleProof (transcriptHash : Bytes) : ClientProof where
  signingKeyId := [3]
  signingPublicKey := [4]
  transcriptHash
  signature := [4] ++ transcriptHash
  issuedAt := bytesFromString "2024-01-01T00:00:00Z"
  expiresAt := bytesFromString "2024-01-01T00:00:20Z"

/-- The `Open` of the client, with its proof. -/
def openWith (transcriptHash : Bytes) : Open where
  sessionKeyGrant := some ⟨.aes256Gcm, List.replicate 16 7, [], [], .hpkeX25519HkdfSha256Aes256Gcm⟩
  clientProof := some (sampleProof transcriptHash)

/-- The hash of the transcript of the session. -/
def sampleHash : Bytes :=
  match clientProofTranscript sampleProofPrims sampleSettings sampleIdentity
      (List.replicate 32 9) (openWith []) (sampleProof []) with
  | none => []
  | some transcript => sampleProofPrims.sha256 (transcript.canonical .none).1

/-- The session has announced itself and waits for an `Open`. -/
def announcedSession : Session :=
  (exec (Session.step sampleProofPrims sampleSettings) {} [(.run, sampleWorld)]).getD {}

/-- The authorised client sends its `Open`. -/
def sampleOpened : Event × World :=
  (.received .none (some (.open_ (openWith sampleHash))), sampleWorld)

/-- The session after the `Open`. -/
def openedSession : Session :=
  (announcedSession.step sampleProofPrims sampleSettings sampleOpened).getD {}

/-- The authorised client opens the session, and a shell is started for it. -/
theorem announcedSession_opened :
    announcedSession.step sampleProofPrims sampleSettings sampleOpened = some openedSession ∧
      openedSession.launches.map Launch.exe = [bytesFromString "/bin/sh"] ∧
      ∃ errorCode open_, sampleOpened.1 = .received errorCode (some (.open_ open_)) ∧
        errorCode.failed = false ∧ Session.Admitted sampleProofPrims sampleSettings sampleWorld
          announcedSession openedSession open_ := by
  have getD_of_isSome : ∀ {o : Option Session}, o.isSome = true → o = some (o.getD {}) := by
    intro o present
    cases o with
    | none => cases present
    | some value => rfl
  have announced : exec (Session.step sampleProofPrims sampleSettings) {}
      [(.run, sampleWorld)] = some announcedSession := getD_of_isSome rfl
  have opened : announcedSession.step sampleProofPrims sampleSettings sampleOpened =
      some openedSession := getD_of_isSome (by decide +kernel)
  have shell : openedSession.launches.map Launch.exe = [bytesFromString "/bin/sh"] := by
    decide +kernel
  have started : openedSession.launches ≠ announcedSession.launches := by decide +kernel
  exact ⟨opened, shell, (Session.child_started_authenticated
    (Run.of_exec (goodAlong_any _ _ _) announced)).2 _ _ opened started⟩

end Rstream.Webtty.Server
