import Rstream.Webtty.Server.Effects
import Rstream.Webtty.Server.Execution

/-!
# A session never falls asleep

As long as a session has not invoked its run handler, something is in flight that will run
one of its functions: the next read or write of the transport, a poll of the child, the
read of an output stream or the message with what was read, the last message or the
reading after it, or the cancellation of the queue. `Live` says which of these it is in
each state, and every step keeps it. So a session of which nothing is in flight has
invoked its handler.
-/

namespace Rstream.Webtty.Server

open List Option
open IoRstrm (ErrorCode)

namespace Session

/-- The loops of the messages in flight. -/
abbrev loops (s : Session) : List Loop := s.sends.map Prod.snd

/-- The cancellation of the queue has not begun. -/
def Unclosed (s : Session) : Prop :=
  s.queueCancels = 0 ∧ s.childExitArmed ≠ some .queueCancelled ∧
    .queueCancelled ∉ s.childExitExpired

/-- An active stream is read, and the child that has exited has output left or an end of it to
announce. -/
def Streams (s : Session) : Prop :=
  (s.childDone = true → s.returnCode.isSome = true ∧
    (s.activeStreams ≠ [] ∨ .null ∈ s.loops)) ∧
  s.activeStreams.Nodup ∧
  ∀ stream ∈ s.activeStreams, stream ∈ s.outputReads ∨ stream.loop ∈ s.loops

/-- What keeps a connected session going: the poll of the child until it has exited, then the
rest of its output and the messages that announce its end. -/
def Served (s : Session) : Prop :=
  (s.childDone = false → s.child = true ∧
    (s.childExitArmed = some .recoverChildExit ∨ .recoverChildExit ∈ s.childExitExpired)) ∧
  s.Streams

/-- What keeps a session going in each state. -/
def Live (s : Session) : Prop :=
  (s.state ≠ .disconnected → s.Unclosed) ∧
  (s.state = .null ∨ s.state = .connecting → s.childDone = false) ∧
  (s.state = .connecting → 0 < s.httpReads ∨ 0 < s.httpWrites ∨ 0 < s.websocketAccepts ∨
    s.readInProgress = true) ∧
  (s.state = .connected → s.Served) ∧
  (s.state = .disconnecting → .exit ∈ s.loops ∨ 0 < s.websocketCloses ∨
    s.finalMessageSent = true ∧ s.readInProgress = true) ∧
  (s.state = .disconnected → s.handler = false ∨ 0 < s.queueCancels ∨
    s.childExitArmed = some .queueCancelled ∨ .queueCancelled ∈ s.childExitExpired)

section

variable (prims : ProofPrimitives) (settings : Settings) (world : World)

variable {s : Session} {errorCode : ErrorCode} {message : Message} {loop : Loop} {index : Nat}

theorem down_ne {state : SessionState} (here : s.state = state)
    (up : state ≠ .null ∧ state ≠ .disconnected) : s.down = false := by
  rw [up_iff, here]
  exact up

/-- In each state only what belongs to it matters. -/
theorem live_of_connected (connected : s.state = .connected) (unclosed : s.Unclosed)
    (served : s.Served) : s.Live := by
  refine ⟨fun _ => unclosed, fun early => ?_, fun other => ?_, fun _ => served, fun other => ?_,
    fun other => ?_⟩
  · rcases early with other | other
    · cases connected.symm.trans other
    · cases connected.symm.trans other
  · cases connected.symm.trans other
  · cases connected.symm.trans other
  · cases connected.symm.trans other

theorem live_of_disconnecting (disconnecting : s.state = .disconnecting) (unclosed : s.Unclosed)
    (leaving : .exit ∈ s.loops ∨ 0 < s.websocketCloses ∨
      s.finalMessageSent = true ∧ s.readInProgress = true) : s.Live := by
  refine ⟨fun _ => unclosed, fun early => ?_, fun other => ?_, fun other => ?_, fun _ => leaving,
    fun other => ?_⟩
  · rcases early with other | other
    · cases disconnecting.symm.trans other
    · cases disconnecting.symm.trans other
  · cases disconnecting.symm.trans other
  · cases disconnecting.symm.trans other
  · cases disconnecting.symm.trans other

theorem live_of_disconnected (disconnected : s.state = .disconnected)
    (waits : s.handler = false ∨ 0 < s.queueCancels ∨
      s.childExitArmed = some .queueCancelled ∨ .queueCancelled ∈ s.childExitExpired) : s.Live := by
  refine ⟨fun other => absurd disconnected other, fun early => ?_, fun other => ?_,
    fun other => ?_, fun other => ?_, fun _ => waits⟩
  · rcases early with other | other
    · cases disconnected.symm.trans other
    · cases disconnected.symm.trans other
  · cases disconnected.symm.trans other
  · cases disconnected.symm.trans other
  · cases disconnected.symm.trans other

theorem live_armStateTimer {timeout : UInt32} (live : s.Live) : (s.armStateTimer timeout).Live := by
  rw [armStateTimer]
  split
  · exact live
  · exact live

theorem armStateTimer_eq (timeout : UInt32) (s : Session) :
    ∃ timers, s.armStateTimer timeout = { s with timers } := by
  rw [armStateTimer]
  split
  · exact ⟨s.timers, rfl⟩
  · exact ⟨s.timers + 1, rfl⟩

/-- A session that is closed waits for its queue. -/
theorem live_onClose (live : s.down = true → s.Live) : (s.onClose errorCode).Live := by
  rw [onClose]
  split
  · rename_i isDown
    exact live isDown
  · exact live_of_disconnected rfl (.inr (.inl (Nat.succ_pos _)))

theorem live_onError (live : s.Live) : (s.onError errorCode).Live := by
  rw [onError]
  split
  · exact live_onClose fun _ => live
  · exact live

theorem live_onError_of_failed (raised : errorCode.failed = true) (live : s.down = true → s.Live) :
    (s.onError errorCode).Live := by
  rw [onError, if_pos raised]
  exact live_onClose live

/-- A message is in flight, or the session ends. -/
theorem live_doSendMessage_of_up (up : s.down = false)
    (live : Live { s with sends := s.sends ++ [(message, loop)], sent := s.sent ++ [message] }) :
    (s.doSendMessage world message loop).Live := by
  rw [doSendMessage, if_neg (Bool.eq_false_iff.mp up)]
  split
  · exact live
  · refine live_onError_of_failed rfl fun isDown => ?_
    rw [up] at isDown
    cases isDown

/-- More messages in flight. -/
theorem live_doSendMessage (live : s.Live) : (s.doSendMessage world message loop).Live := by
  have more {other : Loop} (mem : other ∈ s.loops) :
      other ∈ (s.sends ++ [(message, loop)]).map Prod.snd := by
    rw [map_append]
    exact mem_append_left _ mem
  by_cases up : s.down = false
  · apply live_doSendMessage_of_up world up
    obtain ⟨unclosed, early, connecting, connected, disconnecting, disconnected⟩ := live
    refine ⟨unclosed, early, connecting, fun state => ?_, fun state => ?_, disconnected⟩
    · obtain ⟨polled, done, nodup, read⟩ := connected state
      refine ⟨polled, fun exited => ?_, nodup, fun stream mem => ?_⟩
      · obtain ⟨code, busy⟩ := done exited
        exact ⟨code, busy.imp_right more⟩
      · exact (read stream mem).imp_right more
    · exact (disconnecting state).imp_left more
  · rw [doSendMessage, if_pos (Bool.not_eq_false _ ▸ up)]
    exact live

/-- The last message is in flight, or the session ends. -/
theorem live_doSendLast (state : s.state = .disconnecting) (unclosed : s.Unclosed) :
    (s.doSendMessage world message .exit).Live := by
  refine live_doSendMessage_of_up world (down_ne state (by decide)) ?_
  refine live_of_disconnecting state unclosed (.inl ?_)
  show Loop.exit ∈ (s.sends ++ [(message, Loop.exit)]).map Prod.snd
  rw [map_append]
  exact mem_append_right _ (mem_singleton.mpr rfl)

theorem live_doSendError (unclosed : s.state ≠ .disconnected → s.Unclosed)
    (live : s.state ≠ .connecting → s.state ≠ .connected → s.Live) :
    (s.doSendError settings world errorCode).Live := by
  rw [doSendError]
  split
  · rename_i other
    exact live other.1 other.2
  · rename_i running
    have unclosed : s.Unclosed := unclosed fun state => running (by rw [state]; decide)
    obtain ⟨timers, armed⟩ := armStateTimer_eq settings.timeoutClose
      ({ s with terminationArmed := none }.setState .disconnecting)
    rw [armed]
    exact live_doSendLast world rfl unclosed

/-- A session that is to close does so, or it keeps the code until its streams have ended. -/
theorem live_doSendClose {code : Int} (unclosed : s.state ≠ .disconnected → s.Unclosed)
    (live : s.state ≠ .connected → s.Live) (busy : s.state = .connected → s.activeStreams ≠ [] →
      Live { s with returnCode := some code }) : (s.doSendClose settings world code).Live := by
  rw [doSendClose]
  split
  · rename_i other
    exact live other
  · rename_i connected
    rw [not_not] at connected
    split
    · have unclosed : s.Unclosed := unclosed fun state => by cases connected.symm.trans state
      obtain ⟨timers, armed⟩ := armStateTimer_eq settings.timeoutClose
        ({ s with terminationArmed := none }.setState .disconnecting)
      rw [armed]
      exact live_doSendLast world rfl unclosed
    · rename_i active
      refine busy connected fun empty => active ?_
      rw [empty]
      rfl

/-! ## The child process -/

theorem live_doClose (live : s.Live) : (s.doClose settings world errorCode).Live := by
  rw [doClose]
  split
  · exact live
  · have armed : (s.armStateTimer settings.timeoutClose).Live := live_armStateTimer live
    simp only
    split
    · exact armed
    · exact live_onError (s := requestProcessTermination false _) armed

theorem live_cancelInternal (live : s.Live) : (s.cancelInternal settings world errorCode).Live := by
  rw [cancelInternal]
  split
  · exact live
  · simp only
    split
    · exact live_doClose settings world live
    · exact live_onError live
    · exact live_onClose fun _ => live
    · exact live
    · exact live

theorem live_onChildExit {code : Int} (running : s.childDone = false)
    (connected : s.state = .connected) (unclosed : s.Unclosed) (streams : s.Streams) :
    (s.onChildExit settings world errorCode code).Live := by
  have up := down_ne connected (by decide)
  have unarmed : Unclosed { s with childExitArmed := none } := ⟨unclosed.1, by rintro ⟨⟩, unclosed.2.2⟩
  rw [onChildExit, if_neg (by rw [up, running]; decide)]
  simp only
  split
  · exact live_doSendError settings world (fun _ => unarmed) fun _ other => absurd connected other
  · refine live_doSendClose settings world (fun _ => unarmed) (fun other => absurd connected other) ?_
    intro state active
    obtain ⟨-, nodup, read⟩ := streams
    exact live_of_connected state unarmed ⟨by rintro ⟨⟩, fun _ => ⟨rfl, .inl active⟩, nodup, read⟩

/-- A poll of the child polls again, unless the child has exited. The poll that runs is no
longer in flight. -/
theorem live_recoverChildExit (unclosed : s.state = .connected → s.Unclosed)
    (live : s.state = .connected ∧ s.childDone = false ∨ s.Live)
    (streams : s.state = .connected → s.Streams)
    (child : s.state = .connected → s.childDone = false → s.child = true) :
    (s.recoverChildExit settings world).Live := by
  rw [recoverChildExit]
  split
  · rename_i guard
    rcases live with ⟨connected, running⟩ | live
    · rcases guard with other | done | childless
      · exact absurd connected other
      · cases running.symm.trans done
      · cases (child connected running).symm.trans childless
    · exact live
  · rename_i guard
    rw [not_or, not_not, not_or, Bool.not_eq_true] at guard
    obtain ⟨connected, running, present⟩ := guard
    have unclosed := unclosed connected
    simp only
    split
    · exact live_onChildExit settings world running connected unclosed (streams connected)
    · split
      · exact live_onChildExit settings world running connected unclosed (streams connected)
      · rw [armChildExitTimer, if_neg (by
          rw [not_or, not_not, not_or, Bool.not_eq_true]
          exact ⟨connected, running, present⟩)]
        exact live_of_connected connected ⟨unclosed.1, by rintro ⟨⟩, unclosed.2.2⟩
          ⟨fun _ => ⟨child connected running, .inl rfl⟩, streams connected⟩

theorem live_requestTermination (live : s.Live) : (s.requestTermination settings world).Live := by
  rw [requestTermination]
  split
  · exact live
  · simp only
    split
    · exact live_doSendError settings world live.1 fun _ _ => live
    · exact live

theorem live_onTerminationTimeout {forced : Bool} (live : s.Live) :
    (s.onTerminationTimeout settings world forced).Live := by
  rw [onTerminationTimeout]
  split
  · exact live
  · split
    · exact live_doSendError settings world live.1 fun _ _ => live
    · split
      · exact live
      · simp only
        split
        · exact live_doSendError settings world live.1 fun _ _ => live
        · exact live

/-- The handler is invoked once the resources are closed; until then the child is polled. -/
theorem live_onQueueCancelled (disconnected : s.state = .disconnected) :
    (s.onQueueCancelled world).Live := by
  have kept : (s.closeResources world).2.state = .disconnected :=
    (congrArg View.state (view_closeResources world s)).trans disconnected
  rw [onQueueCancelled]
  generalize s.closeResources world = closed at kept
  simp only
  split
  · exact live_of_disconnected kept (.inr (.inr (.inl rfl)))
  · split
    · exact live_of_disconnected kept (.inl rfl)
    · rename_i handled
      exact live_of_disconnected kept (.inl (Bool.eq_false_iff.mpr handled))

/-! ## The output of the child -/

theorem live_recoverChildExit_of_live (live : s.Live) :
    (s.recoverChildExit settings world).Live := by
  have connected := live.2.2.2.1
  refine live_recoverChildExit settings world (fun state => live.1 ?_) (.inr live)
    (fun state => (connected state).2) (fun state running => ((connected state).1 running).1)
  rw [state]
  decide

/-- The end of a stream takes its last read from what is in flight. -/
theorem live_onEndOfStream {stream : OutputStream} (live : s.Live) (up : s.down = false)
    (taken : s.outputReads[index]? = some stream) :
    (onEndOfStream settings world stream
      { s with outputReads := s.outputReads.eraseIdx index }).Live := by
  have ended : Live (doSendMessage world (.data stream.dataType .eos) .null
      { s with
        outputReads := s.outputReads.eraseIdx index
        activeStreams := s.activeStreams.erase stream }) := by
    refine live_doSendMessage_of_up world up ?_
    obtain ⟨unclosed, early, connecting, connected, disconnecting, disconnected⟩ := live
    have loops (other : Loop) : other ∈ (s.sends ++ [(Message.data stream.dataType .eos,
        Loop.null)]).map Prod.snd ↔ other ∈ s.loops ∨ other = .null := by
      rw [map_append, mem_append, map_singleton, mem_singleton]
    refine ⟨unclosed, early, connecting, fun state => ?_, fun state => ?_, disconnected⟩
    · obtain ⟨polled, done, nodup, read⟩ := connected state
      refine ⟨polled, fun exited => ⟨(done exited).1, .inr ((loops _).mpr (.inr rfl))⟩,
        nodup.erase stream, fun other mem => ?_⟩
      obtain ⟨apart, mem⟩ := nodup.mem_erase_iff.mp mem
      rcases read other mem with pending | queued
      · exact .inl (Library.mem_eraseIdx_of_ne taken apart pending)
      · exact .inr ((loops _).mpr (.inl queued))
    · exact (disconnecting state).imp_left fun queued => (loops _).mpr (.inl queued)
  rw [onEndOfStream]
  simp only
  split
  · exact live_recoverChildExit_of_live settings world ended
  · exact ended

theorem live_onReadStdfd {stream : OutputStream} {result : OutputRead} (live : s.Live)
    (genuine : result.genuine = true) (taken : s.outputReads[index]? = some stream) :
    (onReadStdfd prims settings world stream result
      { s with outputReads := s.outputReads.eraseIdx index }).Live := by
  have lost {errorCode : ErrorCode} {r : Session} (raised : errorCode.failed = true)
      (up : r.down = false) : (r.onError errorCode).Live := by
    refine live_onError_of_failed raised fun isDown => ?_
    rw [up] at isDown
    cases isDown
  rw [onReadStdfd.eq_def]
  split
  · rename_i isDown
    obtain ⟨unclosed, early, connecting, -, -, disconnected⟩ := live
    have isDown : s.state = .null ∨ s.state = .disconnected := by
      rw [← decide_eq_true_iff (p := s.state = .null), ← decide_eq_true_iff
        (p := s.state = .disconnected), ← Bool.or_eq_true]
      exact isDown
    refine ⟨unclosed, early, connecting, fun state => ?_, fun state => ?_, disconnected⟩
    · rw [show s.state = .connected from state] at isDown
      exact absurd isDown (by decide)
    · rw [show s.state = .disconnecting from state] at isDown
      exact absurd isDown (by decide)
  · rename_i isUp
    have up : s.down = false := Bool.eq_false_iff.mpr isUp
    cases result with
    | data bytes =>
      simp only
      split
      · rename_i raised
        exact lost raised up
      · refine live_doSendMessage_of_up world up ?_
        obtain ⟨unclosed, early, connecting, connected, disconnecting, disconnected⟩ := live
        generalize Message.data stream.dataType _ = message
        have loops (other : Loop) : other ∈ (s.sends ++ [(message, stream.loop)]).map Prod.snd ↔
            other ∈ s.loops ∨ other = stream.loop := by
          rw [map_append, mem_append, map_singleton, mem_singleton]
        refine ⟨unclosed, early, connecting, fun state => ?_, fun state => ?_, disconnected⟩
        · obtain ⟨polled, done, nodup, read⟩ := connected state
          refine ⟨polled, fun exited => ?_, nodup, fun other mem => ?_⟩
          · obtain ⟨code, busy⟩ := done exited
            exact ⟨code, busy.imp_right fun queued => (loops _).mpr (.inl queued)⟩
          · by_cases same : other = stream
            · exact .inr ((loops _).mpr (.inr (by rw [same])))
            · rcases read other mem with pending | queued
              · exact .inl (Library.mem_eraseIdx_of_ne taken same pending)
              · exact .inr ((loops _).mpr (.inl queued))
        · exact (disconnecting state).imp_left fun queued => (loops _).mpr (.inl queued)
    | endOfStream => exact live_onEndOfStream settings world live up taken
    | ioError errorCode =>
      simp only
      split
      · exact live_onEndOfStream settings world live up taken
      · exact lost genuine up
    | failed errorCode => exact lost genuine up

/-! ## Opening -/

/-- A session that waits for nothing but is about to. -/
def Opening (s : Session) : Prop :=
  s.state = .connecting ∧ s.Unclosed ∧ s.childDone = false

/-- A session that has ended and is on its way to its handler. -/
def Ended (s : Session) : Prop := s.state = .disconnected ∧ s.Live

theorem ended_onError (raised : errorCode.failed = true) (up : s.down = false) :
    (s.onError errorCode).Ended := by
  refine ⟨congrArg View.state (view_onError raised up), live_onError_of_failed raised ?_⟩
  intro isDown
  rw [up] at isDown
  cases isDown

/-- An operation on the transport in flight keeps a session that connects going. -/
theorem live_of_opening (opening : s.Opening)
    (waits : 0 < s.httpReads ∨ 0 < s.httpWrites ∨ 0 < s.websocketAccepts ∨
      s.readInProgress = true) : s.Live := by
  obtain ⟨state, unclosed, running⟩ := opening
  refine ⟨fun _ => unclosed, fun _ => running, fun _ => waits, fun other => ?_, fun other => ?_,
    fun other => ?_⟩
  · cases state.symm.trans other
  · cases state.symm.trans other
  · cases state.symm.trans other

theorem opening_of_live (live : s.Live) (state : s.state = .connecting) :
    s.Opening := ⟨state, live.1 (by rw [state]; decide), live.2.1 (.inr state)⟩

theorem live_reading (live : s.Live) : Live { s with readInProgress := true } := by
  obtain ⟨unclosed, early, connecting, connected, disconnecting, disconnected⟩ := live
  refine ⟨unclosed, early, fun state => ?_, connected, fun state => ?_, disconnected⟩
  · exact .inr (.inr (.inr rfl))
  · exact (disconnecting state).imp_right fun rest => rest.imp_right fun both => ⟨both.1, rfl⟩

theorem live_doReadIncomingMessage (isDown : s.down = true → s.Live)
    (live : Live { s with readInProgress := true }) : s.doReadIncomingMessage.Live := by
  rw [doReadIncomingMessage]
  split
  · rename_i guard
    rcases guard with off | reading
    · exact isDown off
    · rw [← reading] at live
      exact live
  · exact live

theorem live_read (live : s.Live) : s.doReadIncomingMessage.Live :=
  live_doReadIncomingMessage (fun _ => live) (live_reading live)

theorem live_doSendHeartbeat (live : s.Live) : (s.doSendHeartbeat settings).Live := by
  rw [doSendHeartbeat]
  split
  · exact live
  · exact live

theorem doSendMessage_opening (opening : s.Opening) :
    (s.doSendMessage world message loop).Opening ∨ (s.doSendMessage world message loop).Ended := by
  have up := down_ne opening.1 (by decide)
  rw [doSendMessage, if_neg (Bool.eq_false_iff.mp up)]
  split
  · exact .inl opening
  · exact .inr (ended_onError rfl up)

theorem doSendServerHello_opening (opening : s.Opening) :
    (s.doSendServerHello prims settings world).Opening ∨
      (s.doSendServerHello prims settings world).Ended := by
  have up := down_ne opening.1 (by decide)
  rw [doSendServerHello.eq_def]
  split
  · exact .inl opening
  · split
    · exact .inr (ended_onError (s := { s with serverNonce := _ }) rfl up)
    · rename_i nonce _
      simp only
      split
      · rename_i raised
        exact .inr (ended_onError (s := { s with serverNonce := nonce }) raised up)
      · split
        · rename_i raised
          exact .inr (ended_onError (s := { s with serverNonce := nonce }) raised up)
        · exact doSendMessage_opening world (s := { s with serverNonce := nonce }) opening

theorem live_doOpen (live : s.state = .connecting ∨ s.Live)
    (opening : s.state = .connecting → s.Opening) : (s.doOpen prims settings world).Live := by
  rw [doOpen]
  split
  · rename_i other
    exact live.resolve_left other
  · rename_i connecting
    rw [not_not] at connecting
    have opening := opening connecting
    have up := down_ne connecting (by decide)
    split
    · exact (ended_onError rfl up).2
    · split
      · exact (ended_onError rfl up).2
      · rcases doSendServerHello_opening prims settings world opening with opening | ended
        · refine live_doReadIncomingMessage (fun isDown => ?_) ?_
          · rw [down_ne opening.1 (by decide)] at isDown
            cases isDown
          · exact live_of_opening (s := { doSendServerHello prims settings world s with
              readInProgress := true }) opening (.inr (.inr (.inr rfl)))
        · exact live_read ended.2

/-- The start of a child leaves the session as it is, but for the child and its streams. -/
theorem startChild_opening (config : ProtocolConfig) (opening : s.Opening) :
    (s.startChild settings world config).2.Opening ∧
      ((s.startChild settings world config).1.failed = true ∨
        (s.startChild settings world config).2.child = true) := by
  rw [startChild.eq_def]
  split
  · rename_i errorCode refused
    refine ⟨opening, .inl ?_⟩
    rw [effectiveUsername.eq_def] at refused
    split at refused
    · cases refused
    · split at refused
      · cases refused
        rfl
      · split at refused
        · cases refused
          rfl
        · cases refused
  · simp only
    split
    · rename_i raised
      exact ⟨opening, .inl raised⟩
    · rw [launchChild.eq_def]
      split
      · rename_i thrown _
        exact ⟨opening, .inl thrown.property⟩
      · split
        · exact ⟨opening, .inl rfl⟩
        · simp only
          split
          · rename_i thrown _
            exact ⟨opening, .inl thrown.property⟩
          · exact ⟨opening, .inr rfl⟩

/-- What a session with a new child has before it polls the child. -/
def Started (s : Session) : Prop :=
  s.state = .connected ∧ s.child = true ∧ s.childDone = false ∧ s.Unclosed ∧ s.Streams

theorem live_armChildExitTimer (started : s.Started) : s.armChildExitTimer.Live := by
  obtain ⟨connected, child, running, unclosed, streams⟩ := started
  rw [armChildExitTimer, if_neg (by
    rw [connected, child, running]
    decide)]
  exact live_of_connected connected ⟨unclosed.1, by rintro ⟨⟩, unclosed.2.2⟩
    ⟨fun _ => ⟨child, .inl rfl⟩, streams⟩

theorem started_doReadIncomingMessage (started : s.Started) : s.doReadIncomingMessage.Started := by
  rw [doReadIncomingMessage]
  split
  · exact started
  · exact started

theorem started_doSendHeartbeat (started : s.Started) : (s.doSendHeartbeat settings).Started := by
  rw [doSendHeartbeat]
  split
  · exact started
  · exact started

theorem live_runLoop (state : s.state = .connected) (child : s.child = true)
    (running : s.childDone = false) (unclosed : s.Unclosed) : (s.runLoop settings).Live := by
  rw [runLoop, readStdfdLoop_of_up (down_ne state (by decide))]
  apply live_armChildExitTimer
  apply started_doSendHeartbeat
  apply started_doReadIncomingMessage
  refine ⟨state, child, running, unclosed, fun done => ?_, nodup_outputStreams s.stream,
    fun stream mem => .inl (mem_append_right _ mem)⟩
  cases running.symm.trans done

/-- A session whose acknowledgement could not be serialised starts no loop. -/
theorem live_runLoop_of_disconnected (state : s.state = .disconnected) (live : s.Live) :
    (s.runLoop settings).Live := by
  rw [runLoop, readStdfdLoop_of_down (by rw [down, state]; rfl)]
  have kept : Live { s with activeStreams := outputStreams s.stream } :=
    live_of_disconnected state (live.2.2.2.2.2 state)
  have armed := live_doSendHeartbeat settings (live_read kept)
  have disconnected : (doSendHeartbeat settings (doReadIncomingMessage
      { s with activeStreams := outputStreams s.stream })).state = .disconnected := by
    have view := (view_doSendHeartbeat settings _).trans
      (view_doReadIncomingMessage { s with activeStreams := outputStreams s.stream })
    exact (congrArg View.state view).trans state
  rw [armChildExitTimer, if_pos (.inl (by rw [disconnected]; decide))]
  exact armed

theorem live_onOpen (config : ProtocolConfig) (opening : s.Opening) :
    (s.onOpen settings world config).Live := by
  obtain ⟨started, child⟩ := startChild_opening settings world config opening
  rw [onOpen, if_neg (not_not.mpr opening.1)]
  generalize s.startChild settings world config = result at started child
  obtain ⟨state, unclosed, running⟩ := started
  simp only
  split
  · exact live_doSendError settings world (fun _ => unclosed) fun other => absurd state other
  · rename_i succeeded
    have present := child.resolve_left succeeded
    generalize result.2 = r at state unclosed running present
    have up : ({ r with opened := true }.setState .connected).down = false := rfl
    rw [doSendMessage, if_neg (Bool.eq_false_iff.mp up)]
    split
    · exact live_runLoop settings rfl present running unclosed
    · have ended : (onError Error.Code.protocolError _).Ended := ended_onError rfl up
      exact live_runLoop_of_disconnected settings ended.1 ended.2

/-! ## The upgrade to a websocket -/

section

variable (live : s.Live)

include live

/-- A read of a request in flight is taken; the answer or the upgrade takes its place. -/
theorem live_onReadHttpRequest {result : HttpRead} (genuine : result.genuine = true)
    :
    (onReadHttpRequest settings result { s with httpReads := s.httpReads - 1 }).Live := by
  have ended {errorCode : ErrorCode} :
      (onClose errorCode { s with httpReads := s.httpReads - 1 }).Live := by
    refine live_onClose fun isDown => ?_
    obtain ⟨unclosed, early, -, connected, disconnecting, disconnected⟩ := live
    refine ⟨unclosed, early, fun state => ?_, connected, disconnecting, disconnected⟩
    rw [down_ne (s := { s with httpReads := s.httpReads - 1 }) state (by decide)] at isDown
    cases isDown
  obtain ⟨unclosed, early, -, connected, disconnecting, disconnected⟩ := live
  have answered : (doWriteHttpResponse { s with httpReads := s.httpReads - 1 }).Live :=
    ⟨unclosed, early, fun _ => .inr (.inl (Nat.succ_pos _)), connected, disconnecting, disconnected⟩
  have accepted : (doAcceptWebsocket { s with httpReads := s.httpReads - 1 }).Live := by
    rw [doAcceptWebsocket]
    split
    · rename_i other
      exact ⟨unclosed, early, fun state => absurd state other, connected, disconnecting,
        disconnected⟩
    · exact ⟨unclosed, early, fun _ => .inr (.inr (.inl (Nat.succ_pos _))), connected,
        disconnecting, disconnected⟩
  cases result with
  | endOfStream => exact ended
  | failed errorCode =>
    have raised : errorCode.failed = true := genuine
    rw [onReadHttpRequest, onError, if_pos raised]
    exact ended
  | request upgrade authorization =>
    rw [onReadHttpRequest, doProcessHttpRequest.eq_def]
    split
    · split
      · exact accepted
      · split
        · exact answered
        · exact accepted
    · exact answered

theorem live_onWriteHttpResponse :
    (onWriteHttpResponse errorCode { s with httpWrites := s.httpWrites - 1 }).Live := by
  have ended {errorCode : ErrorCode} :
      (onClose errorCode { s with httpWrites := s.httpWrites - 1 }).Live := by
    refine live_onClose fun isDown => ?_
    obtain ⟨unclosed, early, -, connected, disconnecting, disconnected⟩ := live
    refine ⟨unclosed, early, fun state => ?_, connected, disconnecting, disconnected⟩
    rw [down_ne (s := { s with httpWrites := s.httpWrites - 1 }) state (by decide)] at isDown
    cases isDown
  rw [onWriteHttpResponse]
  split
  · rename_i raised
    rw [onError, if_pos raised]
    exact ended
  · exact ended

theorem live_onAcceptWebsocket :
    (onAcceptWebsocket prims settings world errorCode
      { s with websocketAccepts := s.websocketAccepts - 1 }).Live := by
  rw [onAcceptWebsocket]
  split
  · rename_i other
    obtain ⟨unclosed, early, -, connected, disconnecting, disconnected⟩ := live
    exact ⟨unclosed, early, fun state => absurd state other, connected, disconnecting,
      disconnected⟩
  · rename_i connecting
    rw [not_not] at connecting
    have whole : s.Opening := opening_of_live live connecting
    have opening : Opening { s with websocketAccepts := s.websocketAccepts - 1 } := whole
    split
    · rename_i raised
      exact (ended_onError raised (down_ne opening.1 (by decide))).2
    · exact live_doOpen prims settings world (.inl opening.1) fun _ => opening

theorem live_asyncRunInternal : (s.asyncRunInternal prims settings world).Live := by
  rw [asyncRunInternal.eq_def]
  split
  · exact live
  · rename_i null
    rw [not_not] at null
    obtain ⟨timers, armed⟩ := armStateTimer_eq settings.timeoutOpen
      ({ s with handler := true }.setState .connecting)
    have opening : (({ s with handler := true }.setState .connecting).armStateTimer
        settings.timeoutOpen).Opening := by
      rw [armed]
      exact ⟨rfl, live.1 (by rw [null]; decide), live.2.1 (.inl null)⟩
    generalize ({ s with handler := true }.setState .connecting).armStateTimer
      settings.timeoutOpen = t at opening
    simp only
    split
    · exact live_of_opening (s := { t with httpReads := t.httpReads + 1 }) opening
        (.inl (Nat.succ_pos _))
    · exact live_doOpen prims settings world (.inl opening.1) fun _ => opening

/-! ## The messages of the client -/

theorem live_onProcessData : (s.onProcessData errorCode).Live := by
  rw [onProcessData]
  split
  · exact live
  · split
    · exact live_onError live
    · exact live_read live

theorem live_doProcessData {type : DataType} {payload : DataPayload} :
    (s.doProcessData prims settings world type payload).Live := by
  have buffered (buffer : Option Bytes) : (s.doProcessBuffer buffer).Live := by
    rw [doProcessBuffer.eq_def]
    split
    · exact live
    · cases buffer with
      | none => exact live_onProcessData (s := { s with input := _ }) live
      | some bytes => exact live
  have failed (errorCode : ErrorCode) : (s.doSendError settings world errorCode).Live :=
    live_doSendError settings world live.1 fun _ _ => live
  rw [doProcessData.eq_def]
  split
  · exact live
  · split
    · exact failed _
    · split
      · exact failed _
      · simp only
        split
        · exact failed _
        · exact buffered _
      · exact buffered _
      · exact failed _
      · exact buffered _
      · exact buffered _

theorem live_processMessage (connected : s.state = .connected) :
    (s.processMessage prims settings world message).2.2.Live := by
  rw [processMessage.eq_def]
  split
  · exact live
  · split
    · exact live
    · rename_i expected
      cases message with
      | open_ value =>
        rw [connected] at expected
        exact absurd rfl expected
      | error errorCode => exact live_cancelInternal settings world live
      | terminate => exact live_requestTermination settings world live
      | data type payload => exact live_doProcessData prims settings world live
      | parameter terminalSize =>
        cases terminalSize with
        | none | some size => exact live
      | heartbeat | notSet | ack | close returnCode | attach | serverHello value
      | protocolError code errorCode | clientHello => exact live

end

theorem resolveGrant_opening (open_ : Open) (opening : s.Opening) :
    (s.resolveGrant settings world open_).2.Opening := by
  rw [resolveGrant.eq_def]
  split
  · split
    · exact opening
    · exact opening
  · split
    · exact opening
    · exact opening

/-- A message that arrives when the session connects opens it, or is answered by an error. -/
theorem processMessage_opening (opening : s.Opening) :
    (s.processMessage prims settings world message).1.failed = true ∧
        (s.processMessage prims settings world message).2.2.Opening ∨
      (s.processMessage prims settings world message).2.2.Live := by
  rw [processMessage.eq_def]
  split
  · exact .inl ⟨rfl, opening⟩
  · split
    · exact .inl ⟨rfl, opening⟩
    · rename_i expected
      rw [Bool.not_eq_false, opening.1] at expected
      obtain ⟨open_, rfl⟩ := expected_connecting expected
      have resolved := resolveGrant_opening settings world open_ opening
      show (s.onOpenMessage prims settings world open_).1.failed = true ∧
        (s.onOpenMessage prims settings world open_).2.Opening ∨
          (s.onOpenMessage prims settings world open_).2.Live
      rw [onOpenMessage]
      simp only
      split
      · rename_i raised
        exact .inl ⟨raised, opening⟩
      · split
        · rename_i raised
          exact .inl ⟨raised, resolved⟩
        · exact .inr (live_onOpen settings world _ resolved)

theorem live_onReadIncomingMessage (running : s.Opening ∨ s.state = .connected ∧ s.Live) :
    (s.onReadIncomingMessage prims settings world message).Live := by
  have processed : (s.processMessage prims settings world message).1.failed = true ∧
      (s.processMessage prims settings world message).2.2.Opening ∨
      (s.processMessage prims settings world message).2.2.Live := by
    rcases running with opening | ⟨connected, live⟩
    · exact processMessage_opening prims settings world opening
    · exact .inr (live_processMessage prims settings world live connected)
  have up : s.down = false := by
    rcases running with opening | ⟨connected, -⟩
    · exact down_ne opening.1 (by decide)
    · exact down_ne connected (by decide)
  rw [onReadIncomingMessage, if_neg (Bool.eq_false_iff.mp up)]
  generalize s.processMessage prims settings world message = result at processed
  simp only
  rcases processed with ⟨raised, opening⟩ | live
  · rw [if_pos raised]
    exact live_doSendError settings world (fun _ => opening.2.1) fun other =>
      absurd opening.1 other
  · split
    · exact live_doSendError settings world live.1 fun _ _ => live
    · split
      · exact live_read live
      · exact live

/-- The read in flight is taken; the next one or another operation takes its place. -/
theorem live_onReadIncomingData {message : Option Message} (live : s.Live) :
    (s.onReadIncomingData prims settings world errorCode message).Live := by
  have kept (state : s.state ≠ .connecting) (other : s.state ≠ .disconnecting) :
      Live { s with readInProgress := false } :=
    ⟨live.1, live.2.1, fun here => absurd here state, live.2.2.2.1, fun here => absurd here other,
      live.2.2.2.2.2⟩
  rw [onReadIncomingData.eq_def]
  simp only
  split
  · rename_i isDown
    have apart {state : SessionState} (up : state ≠ .null ∧ state ≠ .disconnected) :
        s.state ≠ state := by
      intro here
      rw [down_ne (s := { s with readInProgress := false }) here up] at isDown
      cases isDown
    exact kept (apart (by decide)) (apart (by decide))
  · rename_i isUp
    split
    · rename_i disconnecting
      split
      · exact live_onClose fun isDown => absurd isDown isUp
      · refine live_doReadIncomingMessage (fun isDown => absurd isDown isUp) ?_
        have reading : Live { s with readInProgress := true } := live_reading live
        exact reading
    · rename_i other
      have running : Opening { s with readInProgress := false } ∨
          s.state = .connected ∧ Live { s with readInProgress := false } := by
        rcases running_of_up (up_of_not isUp) other with connecting | connected
        · have whole : s.Opening := opening_of_live live connecting
          exact .inl whole
        · exact .inr ⟨connected, kept (fun here => by cases connected.symm.trans here) other⟩
      split
      · rename_i raised
        exact live_onError_of_failed raised fun isDown => absurd isDown isUp
      · cases message with
        | none => exact live_onError_of_failed rfl fun isDown => absurd isDown isUp
        | some message => exact live_onReadIncomingMessage prims settings world running

theorem live_onSendMessage (live : s.Live) (taken : s.loops[index]? = some loop) :
    (onSendMessage settings world errorCode loop
      { s with sends := s.sends.eraseIdx index }).Live := by
  have rest {other : Loop} (apart : other ≠ loop) (mem : other ∈ s.loops) :
      other ∈ (s.sends.eraseIdx index).map Prod.snd := by
    rw [← eraseIdx_map]
    exact Library.mem_eraseIdx_of_ne taken apart mem
  obtain ⟨unclosed, early, connecting, connected, disconnecting, disconnected⟩ := live
  rw [onSendMessage.eq_def]
  split
  · rename_i isDown
    have apart {state : SessionState} (up : state ≠ .null ∧ state ≠ .disconnected) :
        s.state ≠ state := by
      intro here
      rw [down_ne (s := { s with sends := s.sends.eraseIdx index }) here up] at isDown
      cases isDown
    exact ⟨unclosed, early, connecting, fun here => absurd here (apart (by decide)),
      fun here => absurd here (apart (by decide)), disconnected⟩
  · rename_i isUp
    have up : s.down = false := Bool.eq_false_iff.mpr isUp
    split
    · rename_i raised
      exact live_onError_of_failed raised fun isDown => absurd isDown isUp
    · -- A stream is read on.
      have resumed (stream : OutputStream) (same : loop = stream.loop) :
          (doReadStdfd stream { s with sends := s.sends.eraseIdx index }).Live := by
        rw [doReadStdfd_of_up (s := { s with sends := s.sends.eraseIdx index }) stream up]
        refine ⟨unclosed, early, connecting, fun state => ?_, fun state => ?_, disconnected⟩
        · obtain ⟨polled, done, nodup, read⟩ := connected state
          refine ⟨polled, fun exited => ?_, nodup, fun other mem => ?_⟩
          · obtain ⟨code, busy⟩ := done exited
            refine ⟨code, busy.imp_right (rest ?_)⟩
            rw [same]
            cases stream with
            | stdOut | stdErr => decide
          · by_cases isStream : other = stream
            · exact .inl (mem_append_right _ (mem_singleton.mpr isStream))
            · refine (read other mem).imp (fun pending => mem_append_left _ pending) (rest ?_)
              rw [same]
              exact mt OutputStream.loop_injective isStream
        · refine (disconnecting state).imp_left (rest ?_)
          rw [same]
          cases stream with
          | stdOut | stdErr => decide
      -- The messages of the other loops are not what keeps a stream going.
      have streams (outside : ∀ stream : OutputStream, stream.loop ≠ loop)
          (state : s.state = .connected) : ∀ stream ∈ s.activeStreams, stream ∈ s.outputReads ∨
            stream.loop ∈ (s.sends.eraseIdx index).map Prod.snd := by
        intro stream mem
        exact ((connected state).2.2.2 stream mem).imp_right (rest (outside stream))
      cases loop with
      | readStdOut => exact resumed .stdOut rfl
      | readStdErr => exact resumed .stdErr rfl
      | heartbeat =>
        apply live_doSendHeartbeat
        refine ⟨unclosed, early, connecting, fun state => ?_, fun state => ?_, disconnected⟩
        · obtain ⟨polled, done, nodup, -⟩ := connected state
          exact ⟨polled, fun exited => ⟨(done exited).1, (done exited).2.imp_right (rest (by rintro ⟨⟩))⟩,
            nodup, streams (fun stream => by cases stream <;> rintro ⟨⟩) state⟩
        · exact (disconnecting state).imp_left (rest (by rintro ⟨⟩))
      | exit =>
        have other (state : s.state = .connected) :
            Served { s with sends := s.sends.eraseIdx index } := by
          obtain ⟨polled, done, nodup, -⟩ := connected state
          exact ⟨polled, fun exited => ⟨(done exited).1, (done exited).2.imp_right (rest (by rintro ⟨⟩))⟩,
            nodup, streams (fun stream => by cases stream <;> rintro ⟨⟩) state⟩
        simp only
        split
        · exact live_onClose fun isDown => absurd isDown isUp
        · split
          · exact ⟨unclosed, early, connecting, other, fun _ => .inr (.inl (Nat.succ_pos _)),
              disconnected⟩
          · refine live_doReadIncomingMessage (fun isDown => absurd isDown isUp) ?_
            exact ⟨unclosed, early, fun _ => .inr (.inr (.inr rfl)), other,
              fun _ => .inr (.inr ⟨rfl, rfl⟩), disconnected⟩
      | null =>
        -- The end of the last stream was announced: the session closes now.
        have kept (open_ : s.state = .connected → s.childDone = true → s.activeStreams ≠ []) :
            Live { s with sends := s.sends.eraseIdx index } := by
          refine ⟨unclosed, early, connecting, fun state => ?_, fun state => ?_, disconnected⟩
          · obtain ⟨polled, done, nodup, -⟩ := connected state
            exact ⟨polled, fun exited => ⟨(done exited).1, .inl (open_ state exited)⟩, nodup,
              streams (fun stream => by cases stream <;> rintro ⟨⟩) state⟩
          · exact (disconnecting state).imp_left (rest (by rintro ⟨⟩))
        simp only
        split
        · split
          · rename_i drained
            refine live_doSendClose settings world unclosed (fun other => absurd drained.1 other) ?_
            exact fun _ active => absurd (isEmpty_iff.mp drained.2) active
          · rename_i open_
            exact kept fun state _ empty => open_ ⟨state, isEmpty_iff.mpr empty⟩
        · rename_i unset
          refine kept fun state exited => ?_
          have set := ((connected state).2.1 exited).1
          rw [show s.returnCode = none from unset] at set
          cases set

/-! ## Steps -/

theorem live_init : Live {} := by
  refine ⟨fun _ => ⟨rfl, nofun, not_mem_nil⟩, fun _ => rfl, nofun, nofun, nofun, nofun⟩

/-- What is due to the cancellation of the queue runs when the session has ended. -/
theorem disconnected_of_closing (live : s.Live)
    (closing : s.queueCancels ≠ 0 ∨ .queueCancelled ∈ s.childExitExpired) :
    s.state = .disconnected := by
  by_contra other
  obtain ⟨none, -, unexpired⟩ := live.1 other
  rcases closing with some | expired
  · exact some none
  · exact unexpired expired

theorem live_onCloseWebsocket (live : s.Live) :
    (onCloseWebsocket { s with websocketCloses := s.websocketCloses - 1 }).Live := by
  rw [onCloseWebsocket]
  split
  · rename_i isDown
    obtain ⟨unclosed, early, connecting, connected, -, disconnected⟩ := live
    refine ⟨unclosed, early, connecting, connected, fun state => ?_, disconnected⟩
    rw [down_ne (s := { s with websocketCloses := s.websocketCloses - 1 }) state (by decide)]
      at isDown
    cases isDown
  · rename_i isUp
    exact live_onClose fun isDown => absurd isDown isUp

/-- A wait that expires has its handler queued. -/
theorem live_expireChildExit {wait : ChildExitWait} (live : s.Live)
    (armed : s.childExitArmed = some wait) :
    Live { s with childExitArmed := none, childExitExpired := s.childExitExpired ++ [wait] } := by
  obtain ⟨unclosed, early, connecting, connected, disconnecting, disconnected⟩ := live
  have queued {other : ChildExitWait} (mem : s.childExitArmed = some other) :
      other ∈ s.childExitExpired ++ [wait] := by
    rw [armed] at mem
    exact mem_append_right _ (mem_singleton.mpr (some.inj mem).symm)
  refine ⟨fun state => ?_, early, connecting, fun state => ?_, disconnecting, fun state => ?_⟩
  · obtain ⟨none, unarmed, unexpired⟩ := unclosed state
    refine ⟨none, nofun, fun mem => ?_⟩
    rcases mem_append.mp mem with old | new
    · exact unexpired old
    · exact unarmed (by rw [armed, mem_singleton.mp new])
  · obtain ⟨polled, streams⟩ := connected state
    refine ⟨fun running => ?_, streams⟩
    obtain ⟨child, waits⟩ := polled running
    exact ⟨child, .inr (waits.elim queued fun old => mem_append_left _ old)⟩
  · refine (disconnected state).imp_right fun rest => rest.imp_right fun waits => ?_
    exact .inr (waits.elim queued fun old => mem_append_left _ old)

/-- The poll that expired runs. -/
theorem live_childExitTimer {waits : List ChildExitWait} (live : s.Live)
    (expired : s.childExitExpired = .recoverChildExit :: waits) :
    (recoverChildExit settings world { s with childExitExpired := waits }).Live := by
  obtain ⟨unclosed, early, connecting, connected, disconnecting, disconnected⟩ := live
  have still : .queueCancelled ∈ s.childExitExpired → .queueCancelled ∈ waits := by
    rw [expired]
    intro mem
    rcases mem_cons.mp mem with same | later
    · cases same
    · exact later
  have less (state : s.state ≠ .disconnected) : Unclosed { s with childExitExpired := waits } := by
    obtain ⟨none, unarmed, unexpired⟩ := unclosed state
    refine ⟨none, unarmed, fun mem => unexpired ?_⟩
    rw [expired]
    exact mem_cons_of_mem _ mem
  refine live_recoverChildExit settings world (fun state => less ?_) ?_
    (fun state => (connected state).2) (fun state running => ((connected state).1 running).1)
  · intro other
    cases (show s.state = .connected from state).symm.trans other
  · by_cases polls : s.state = .connected ∧ s.childDone = false
    · exact .inl polls
    · refine .inr ⟨less, early, connecting, fun state => ⟨fun running => ?_, (connected state).2⟩,
        disconnecting, fun state => ?_⟩
      · exact absurd ⟨state, running⟩ polls
      · exact (disconnected state).imp_right fun rest => rest.imp_right fun waits =>
          waits.imp_right still

/-- **Every step keeps a session going.** -/
theorem step_live {t : Session} {input : Event × World} (live : s.Live)
    (taken : s.step prims settings input = some t) : t.Live := by
  obtain ⟨event, world⟩ := input
  cases event with
  | run =>
    cases taken
    exact live_asyncRunInternal prims settings world live
  | cancel =>
    cases taken
    exact live_cancelInternal settings world live
  | timer =>
    obtain ⟨-, stepped⟩ := ite_none_left_eq_some.mp taken
    cases stepped
    exact live_onError (s := { s with timers := s.timers - 1 }) live
  | heartbeat =>
    obtain ⟨-, stepped⟩ := ite_none_left_eq_some.mp taken
    cases stepped
    exact live_doSendMessage world (s := { s with heartbeats := s.heartbeats - 1 }) live
  | httpRead result =>
    obtain ⟨guard, stepped⟩ := ite_none_left_eq_some.mp taken
    cases stepped
    rw [not_or, Bool.not_eq_false] at guard
    exact live_onReadHttpRequest settings live guard.2
  | httpWritten errorCode =>
    obtain ⟨-, stepped⟩ := ite_none_left_eq_some.mp taken
    cases stepped
    exact live_onWriteHttpResponse live
  | websocketAccepted errorCode =>
    obtain ⟨-, stepped⟩ := ite_none_left_eq_some.mp taken
    cases stepped
    exact live_onAcceptWebsocket prims settings world live
  | websocketClosed =>
    obtain ⟨-, stepped⟩ := ite_none_left_eq_some.mp taken
    cases stepped
    exact live_onCloseWebsocket live
  | queueCancelled =>
    obtain ⟨pending, stepped⟩ := ite_none_left_eq_some.mp taken
    cases stepped
    have state : s.state = .disconnected := disconnected_of_closing live (.inl pending)
    exact live_onQueueCancelled world (s := { s with queueCancels := s.queueCancels - 1 }) state
  | received errorCode message =>
    obtain ⟨-, stepped⟩ := ite_none_right_eq_some.mp taken
    cases stepped
    exact live_onReadIncomingData prims settings world live
  | sent index errorCode =>
    cases found : s.sends[index]? with
    | none =>
      rw [step] at taken
      simp only [found] at taken
      cases taken
    | some entry =>
      rw [step] at taken
      simp only [found] at taken
      cases taken
      apply live_onSendMessage settings world live
      rw [getElem?_map, found]
      rfl
  | outputRead index result =>
    cases found : s.outputReads[index]? with
    | none =>
      rw [step] at taken
      simp only [found] at taken
      cases taken
    | some stream =>
      rw [step] at taken
      simp only [found] at taken
      obtain ⟨genuine, stepped⟩ := ite_none_left_eq_some.mp taken
      cases stepped
      exact live_onReadStdfd prims settings world live (Bool.not_eq_false _ ▸ genuine) found
  | inputWritten errorCode =>
    obtain ⟨-, stepped⟩ := ite_none_left_eq_some.mp taken
    cases stepped
    exact live_onProcessData (s := { s with inputWrites := s.inputWrites - 1 }) live
  | expireChildExit =>
    cases armed : s.childExitArmed with
    | none =>
      rw [step] at taken
      simp only [armed] at taken
      cases taken
    | some wait =>
      rw [step] at taken
      simp only [armed] at taken
      cases taken
      exact live_expireChildExit live armed
  | childExitTimer =>
    cases expired : s.childExitExpired with
    | nil =>
      rw [step] at taken
      simp only [expired] at taken
      cases taken
    | cons wait waits =>
      rw [step] at taken
      simp only [expired] at taken
      cases wait with
      | recoverChildExit =>
        cases taken
        exact live_childExitTimer settings world live expired
      | queueCancelled =>
        cases taken
        have state : s.state = .disconnected := by
          apply disconnected_of_closing live
          rw [expired]
          exact .inr mem_cons_self
        exact live_onQueueCancelled world (s := { s with childExitExpired := waits }) state
  | expireTermination =>
    cases armed : s.terminationArmed with
    | none =>
      rw [step] at taken
      simp only [armed] at taken
      cases taken
    | some forced =>
      rw [step] at taken
      simp only [armed] at taken
      cases taken
      exact live
  | terminationTimer =>
    cases expired : s.terminationExpired with
    | nil =>
      rw [step] at taken
      simp only [expired] at taken
      cases taken
    | cons forced waits =>
      rw [step] at taken
      simp only [expired] at taken
      cases taken
      exact live_onTerminationTimeout settings world (s := { s with
        terminationExpired := waits }) live

end

/-- Nothing of a session is in flight. -/
def Idle (s : Session) : Prop :=
  s.httpReads = 0 ∧ s.httpWrites = 0 ∧ s.websocketAccepts = 0 ∧ s.websocketCloses = 0 ∧
    s.readInProgress = false ∧ s.sends = [] ∧ s.outputReads = [] ∧ s.childExitArmed = none ∧
    s.childExitExpired = [] ∧ s.queueCancels = 0

theorem ended_of_idle {s : Session} (live : s.Live) (idle : s.Idle) (running : s.state ≠ .null) :
    s.state = .disconnected ∧ s.handler = false := by
  obtain ⟨-, -, connecting, connected, disconnecting, disconnected⟩ := live
  obtain ⟨reads, writes, accepts, closes, reading, sends, outputReads, armed, expired, cancels⟩ :=
    idle
  cases here : s.state with
  | null => exact absurd here running
  | connecting =>
    rcases connecting here with some | some | some | some
    · omega
    · omega
    · omega
    · cases reading.symm.trans some
  | connected =>
    obtain ⟨polled, done, -, read⟩ := connected here
    cases exited : s.childDone with
    | false =>
      rcases (polled exited).2 with some | some
      · cases armed.symm.trans some
      · rw [expired] at some
        cases some
    | true =>
      rcases (done exited).2 with active | some
      · obtain ⟨stream, mem⟩ := exists_mem_of_ne_nil _ active
        rcases read stream mem with some | some
        · rw [outputReads] at some
          cases some
        · rw [loops, sends] at some
          cases some
      · rw [loops, sends] at some
        cases some
  | disconnecting =>
    rcases disconnecting here with some | some | some
    · rw [loops, sends] at some
      cases some
    · omega
    · cases reading.symm.trans some.2
  | disconnected =>
    refine ⟨rfl, ?_⟩
    rcases disconnected here with done | some | some | some
    · exact done
    · omega
    · cases armed.symm.trans some
    · rw [expired] at some
      cases some

end Session

/-- The run handler of a session that was asked to run once. -/
def View.Handled (s : View) : Prop :=
  (s.state = .null → s.handler = false) ∧
    s.completions.length + (if s.handler then 1 else 0) = if s.state = .null then 0 else 1

theorem View.Handled.kept {prims : ProofPrimitives} {heard : DataPayload → Prop} {s t : View}
    (effect : Effect prims heard s t)
    (handled : s.Handled) : t.Handled := by
  have moved {state : SessionState} (running : s.state ≠ .null) (up : state ≠ .null) :
      s.completions.length + (if s.handler then 1 else 0) = if state = .null then 0 else 1 := by
    rw [if_neg up, handled.2, if_neg running]
  have apart {state : SessionState} (here : s.state = state) (up : state ≠ .null) :
      s.state ≠ .null := by
    rw [here]
    exact up
  cases effect with
  | begin null =>
    obtain ⟨unset, balance⟩ := handled
    refine ⟨nofun, ?_⟩
    rw [null, unset null, if_pos rfl] at balance
    show s.completions.length + 1 = 1
    simp only [Bool.false_eq_true, if_false, Nat.add_zero] at balance
    rw [balance]
  | close running | spoil activeStreams running => exact ⟨nofun, moved running nofun⟩
  | report errorCode running =>
    refine ⟨nofun, moved ?_ nofun⟩
    rcases running with connecting | connected
    · exact apart connecting nofun
    · exact apart connected nofun
  | finish code connected drained => exact ⟨nofun, moved (apart connected nofun) nofun⟩
  | opened connecting => exact ⟨nofun, moved (apart connecting nofun) nofun⟩
  | complete errorCode handler =>
    obtain ⟨unset, balance⟩ := handled
    refine ⟨fun _ => rfl, ?_⟩
    rw [handler, if_pos rfl] at balance
    show (s.completions ++ [errorCode]).length + 0 = _
    rw [length_append, ← balance]
    rfl
  | dropSend index | dropRead index | announce running plain outside | prepare backend connecting
  | key payloadCrypto connecting | resume taken | output running taken encrypted
  | endStream running taken | write connected decrypted => exact handled

/-- A session that was asked to run once invokes its handler at most once, and has invoked it
when it is idle. -/
theorem Session.completions_of_idle {s : Session} (live : s.Live) (handled : s.view.Handled)
    (running : s.state ≠ .null) (idle : s.Idle) : s.completions.length = 1 := by
  have balance : s.completions.length + (if s.handler then 1 else 0) =
      if s.state = .null then 0 else 1 := handled.2
  rw [if_neg running, (ended_of_idle live idle running).2] at balance
  exact balance

end Rstream.Webtty.Server
