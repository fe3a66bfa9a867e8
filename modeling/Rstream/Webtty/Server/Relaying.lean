import Rstream.Webtty.Server.Child

/-!
# The output of the child of a session

A byte the child wrote is in its pipe or in a message that was handed to the queue. An
output ends when its pipe is empty and closed, and the session closes only when both outputs
have ended and the exit of the child is known. So a session that leaves that way has
delivered all of the output and the exit code.

A write to the input of the child that fails ends the session as well, at once. The child
may stop reading its input, or exit, while its output or its exit is still on the way, and
the client may send input after the end of it; what is on the way then is lost.
-/

namespace Rstream.Webtty.Server

open Option List
open Function (update update_eq_self update_of_ne update_self)
open Library
open IoRstrm (ErrorCode)

/-! ## A session that was opened -/

section

variable {prims : ProofPrimitives} {settings : Settings} {world : World}

/-- A session that was opened keeps its stream and its payload crypto, and what it sent. -/
structure Continues (v w : View) : Prop where
  state : w.state ≠ .null ∧ w.state ≠ .connecting
  stream : w.stream = v.stream
  payloadCrypto : w.payloadCrypto = v.payloadCrypto
  sent : v.sent <+: w.sent

theorem Continues.of_effect {heard : DataPayload → Prop} {v w : View}
    (effect : Effect prims heard v w) (opened : v.state ≠ .null ∧ v.state ≠ .connecting) :
    Continues v w := by
  have grows : ∀ later, v.sent <+: v.sent ++ later := prefix_append v.sent
  cases effect with
  | dropSend index | dropRead index | resume taken | write connected decrypted
  | complete errorCode handler => exact ⟨opened, rfl, rfl, prefix_rfl⟩
  | begin null => exact absurd null opened.1
  | close running | spoil activeStreams running => exact ⟨⟨nofun, nofun⟩, rfl, rfl, prefix_rfl⟩
  | announce running plain outside | output running taken encrypted | endStream running taken => exact ⟨opened, rfl, rfl, grows _⟩
  | report errorCode running | finish code connected drained => exact ⟨⟨nofun, nofun⟩, rfl, rfl, grows _⟩
  | prepare backend connecting | key payloadCrypto connecting | opened connecting => exact absurd connecting opened.2

theorem Continues.of_step {s t : Session} {event : Event}
    (opened : s.state ≠ .null ∧ s.state ≠ .connecting)
    (taken : s.step prims settings (event, world) = some t) : Continues s.view t.view := by
  by_cases accepted : event = .run → s.state = .null
  · have chain : Leads prims (fun _ => True) s t :=
      Session.step_leads prims settings accepted (fun _ _ => trivial) taken
    have opened : s.view.state ≠ .null ∧ s.view.state ≠ .connecting := opened
    rw [Leads] at chain
    generalize s.view = v at chain opened
    generalize t.view = w at chain
    induction chain with
    | refl => exact ⟨opened, rfl, rfl, prefix_rfl⟩
    | tail _ last ih =>
      have next := Continues.of_effect last ih.state
      exact ⟨next.state, next.stream.trans ih.stream,
        next.payloadCrypto.trans ih.payloadCrypto, ih.sent.trans next.sent⟩
  · obtain ⟨rfl, running⟩ := Classical.not_imp.mp accepted
    cases taken
    rw [Session.asyncRunInternal_of_running prims settings world running]
    exact ⟨opened, rfl, rfl, prefix_rfl⟩

end

namespace Attended

/-- Input for the child, the end of it, or a heartbeat. -/
def wellFormed (prims : ProofPrimitives) (payloadCrypto : Option PayloadCrypto) : Message → Bool
  | .heartbeat => true
  | .data .stdIn payload =>
    match payload, payloadCrypto with
    | .eos, _ => true
    | .encryptedData encrypted, some crypto =>
      !(crypto.decrypt prims.toPrimitives .stdIn encrypted []).2.failed
    | .data _, none | .notSet, none => true
    | _, _ => false
  | _ => false

/-- Nobody cancels or terminates the session and no timeout passes, the transport does not
fail, the client of a session that is connected sends input and heartbeats only, and messages
can be serialised and encrypted. -/
def Benign (prims : ProofPrimitives) (a : Attended) : Happening → Prop
  | .handler event world => (∀ message, world.serializes message = true) ∧
      match event with
      | .cancel | .timer | .terminationTimer => False
      | .received errorCode message => errorCode.failed = false ∧
          (a.session.state = .connected → ∃ value, message = some value ∧
            wellFormed prims a.session.payloadCrypto value = true)
      | .sent _ errorCode => errorCode.failed = false
      | .outputRead index (.data bytes) =>
        ∀ stream, a.session.outputReads[index]? = some stream →
          (a.session.outputPayload prims world stream bytes).2.failed = false
      | _ => True
  | _ => True

/-- No write to the input of the child fails while the session is connected. -/
def InputTaken (a : Attended) : Happening → Prop
  | .handler (.inputWritten errorCode) _ => a.session.state = .connected → errorCode.failed = false
  | _ => True

/-! ## A session that is connected -/

/-- What the child wrote is in its pipes or in messages, an output that has ended is not on its
way any more, and the exit code that waits for the outputs is that of the child. -/
structure Relayed (prims : ProofPrimitives) (s : Session) (c : Child) : Prop where
  carried : ∀ stream, ∃ bytes, Holds prims s.payloadCrypto stream s.sent bytes ∧
    bytes ++ c.pipes stream = c.wrote stream
  ended : ∀ stream, stream ∉ s.activeStreams → c.pipes stream = [] ∧ c.outputs stream = false
  code : ∀ code, s.returnCode = some code → c.exitCode = some code

/-- The session goes on, or it leaves and has delivered everything. -/
def Settles (prims : ProofPrimitives) (t : Session) (c : Child) : Prop :=
  (t.state = .connected ∧ Relayed prims t c) ∨ (¬ t.Staying ∧ Delivered prims ⟨t, c⟩)

section

variable {prims : ProofPrimitives} {settings : Settings} {world : World} {s t : Session} {c : Child}

theorem Relayed.of_same (relayed : Relayed prims s c) (crypto : t.payloadCrypto = s.payloadCrypto)
    (sent : t.sent = s.sent) (active : t.activeStreams = s.activeStreams)
    (code : t.returnCode = s.returnCode) : Relayed prims t c where
  carried := by
    rw [crypto, sent]
    exact relayed.carried
  ended := by
    rw [active]
    exact relayed.ended
  code := by
    rw [code]
    exact relayed.code

variable {message : Message} {stream : OutputStream} {errorCode : ErrorCode}

variable {loop : Loop} {code : Int} {payload : DataPayload}

theorem doSendMessage_of_serializes (up : s.down = false)
    (serializes : world.serializes message = true) :
    s.doSendMessage world message loop =
      { s with sends := s.sends ++ [(message, loop)], sent := s.sent ++ [message] } := by
  rw [Session.doSendMessage, if_neg (Bool.eq_false_iff.mp up), if_pos serializes]

/-- A message without output. -/
theorem Relayed.announce (relayed : Relayed prims s c)
    (plain : ∀ stream, pieces stream [message] = []) (crypto : t.payloadCrypto = s.payloadCrypto)
    (sent : t.sent = s.sent ++ [message]) (active : t.activeStreams = s.activeStreams)
    (code : t.returnCode = s.returnCode) :
    Relayed prims t c where
  carried stream := by
    obtain ⟨bytes, holds, all⟩ := relayed.carried stream
    rw [crypto, sent]
    exact ⟨bytes, holds.snoc (plain stream), all⟩
  ended := by
    rw [active]
    exact relayed.ended
  code := by
    rw [code]
    exact relayed.code

/-- Everything is delivered when both outputs have ended. -/
theorem Relayed.delivered (relayed : Relayed prims s c) (exited : c.exitCode = some code)
    (drained : s.activeStreams = []) (crypto : t.payloadCrypto = s.payloadCrypto)
    (sent : t.sent = s.sent ++ [.close code]) : Delivered prims ⟨t, c⟩ := by
  refine ⟨s.sent, code, [], sent, exited, fun stream => ?_⟩
  obtain ⟨bytes, holds, all⟩ := relayed.carried stream
  have empty : c.pipes stream = [] := by
    refine (relayed.ended stream ?_).1
    rw [drained]
    exact not_mem_nil
  rw [empty, append_nil] at all
  show Holds prims t.payloadCrypto stream s.sent (c.wrote stream)
  rw [crypto, ← all]
  exact holds

theorem settles_doSendClose (serializes : ∀ message, world.serializes message = true)
    (connected : s.state = .connected) (relayed : Relayed prims s c)
    (exited : c.exitCode = some code) : Settles prims (s.doSendClose settings world code) c := by
  rw [Session.doSendClose, if_neg (not_not.mpr connected)]
  split
  · rename_i drained
    obtain ⟨timers, armed⟩ := Session.armStateTimer_eq settings.timeoutClose
      (Session.setState .disconnecting { s with terminationArmed := none })
    rw [armed, doSendMessage_of_serializes rfl (serializes _)]
    refine .inr ⟨fun staying => staying.1 rfl, ?_⟩
    exact relayed.delivered exited (isEmpty_iff.mp drained) rfl rfl
  · refine .inl ⟨connected, relayed.carried, relayed.ended, fun other same => ?_⟩
    cases same
    exact exited

theorem settles_recoverChildExit (serializes : ∀ message, world.serializes message = true)
    (answers : c.Answers world) (connected : s.state = .connected) (relayed : Relayed prims s c) :
    Settles prims (s.recoverChildExit settings world) c := by
  have up : s.down = false := Session.down_ne connected (by decide)
  rw [Session.recoverChildExit]
  split
  · exact .inl ⟨connected, relayed⟩
  · rename_i guard
    obtain ⟨-, undone, -⟩ := not_or.mp guard |>.imp id not_or.mp
    simp only
    rw [if_neg (by rw [answers.1]; decide)]
    split
    · rename_i found
      have exited := answers.2 found
      rw [Session.onChildExit, if_neg (by rw [up]; simpa using undone)]
      simp only
      rw [if_neg (by decide)]
      exact settles_doSendClose (s := { s with
        childExitArmed := none, childDone := true, childExitCode := world.exitCode }) serializes
        connected (relayed.of_same rfl rfl rfl rfl) exited
    · rw [Session.armChildExitTimer]
      split
      · exact .inl ⟨connected, relayed⟩
      · exact .inl ⟨connected, relayed.of_same rfl rfl rfl rfl⟩

theorem Relayed.endStream (relayed : Relayed prims s c)
    (exhausted : c.pipes stream = [] ∧ c.outputs stream = false) :
    Relayed prims { s with activeStreams := s.activeStreams.erase stream } c where
  carried := relayed.carried
  ended other gone := by
    by_cases same : other = stream
    · rw [same]
      exact exhausted
    · exact relayed.ended other fun mem => gone ((mem_erase_of_ne same).mpr mem)
  code := relayed.code

/-- A piece of an output that was in its pipe. -/
theorem Relayed.piece (relayed : Relayed prims s c) {chunk : Bytes}
    (yields : chunk <+: c.pipes stream)
    (carries : Carries prims s.payloadCrypto stream payload chunk)
    (crypto : t.payloadCrypto = s.payloadCrypto)
    (sent : t.sent = s.sent ++ [.data stream.dataType payload])
    (active : t.activeStreams = s.activeStreams) (code : t.returnCode = s.returnCode) :
    Relayed prims t (c.isRead stream chunk) where
  carried other := by
    obtain ⟨bytes, holds, all⟩ := relayed.carried other
    rw [crypto, sent]
    by_cases same : stream = other
    · subst same
      obtain ⟨rest, pipe⟩ := yields
      refine ⟨bytes ++ chunk, holds.piece (pieces_same (carries_ne_eos carries)) carries, ?_⟩
      show bytes ++ chunk ++
        update c.pipes stream ((c.pipes stream).drop chunk.length) stream = c.wrote stream
      rw [update_self, ← all, ← pipe, drop_left, append_assoc]
    · refine ⟨bytes, holds.snoc (pieces_other same payload), ?_⟩
      show bytes ++ update c.pipes stream _ other = c.wrote other
      rw [update_of_ne (Ne.symm same)]
      exact all
  ended other gone := by
    rw [active] at gone
    obtain ⟨empty, closed⟩ := relayed.ended other gone
    refine ⟨?_, closed⟩
    show update c.pipes stream ((c.pipes stream).drop chunk.length) other = []
    by_cases same : other = stream
    · subst same
      rw [update_self, empty, drop_nil]
    · rw [update_of_ne same]
      exact empty
  code := by
    rw [code]
    exact relayed.code

theorem settles_onEndOfStream (serializes : ∀ message, world.serializes message = true)
    (answers : c.Answers world) (connected : s.state = .connected) (relayed : Relayed prims s c)
    (exhausted : c.pipes stream = [] ∧ c.outputs stream = false) :
    Settles prims (s.onEndOfStream settings world stream) c := by
  have up : Session.down { s with activeStreams := s.activeStreams.erase stream } = false :=
    Session.down_ne connected (by decide)
  have ended : Relayed prims (Session.doSendMessage world (.data stream.dataType .eos) .null
      { s with activeStreams := s.activeStreams.erase stream }) c := by
    rw [doSendMessage_of_serializes up (serializes _)]
    exact (relayed.endStream exhausted).announce (fun other => pieces_eos other stream) rfl rfl rfl
      rfl
  have still : (Session.doSendMessage world (.data stream.dataType .eos) .null
      { s with activeStreams := s.activeStreams.erase stream }).state = .connected := by
    rw [doSendMessage_of_serializes up (serializes _)]
    exact connected
  simp only [Session.onEndOfStream]
  split
  · exact settles_recoverChildExit serializes answers still ended
  · exact .inl ⟨still, ended⟩

theorem settles_onSendMessage (serializes : ∀ message, world.serializes message = true)
    (connected : s.state = .connected) (relayed : Relayed prims s c)
    (succeeded : errorCode.failed = false) (goesOn : loop ≠ .exit) :
    Settles prims (s.onSendMessage settings world errorCode loop) c := by
  have up : s.down = false := Session.down_ne connected (by decide)
  have reads : ∀ stream, Settles prims (s.doReadStdfd stream) c := by
    intro stream
    rw [Session.doReadStdfd_of_up stream up]
    exact .inl ⟨connected, relayed.of_same rfl rfl rfl rfl⟩
  rw [Session.onSendMessage.eq_def, if_neg (Bool.eq_false_iff.mp up),
    if_neg (Bool.eq_false_iff.mp succeeded)]
  cases loop with
  | readStdOut => exact reads .stdOut
  | readStdErr => exact reads .stdErr
  | heartbeat =>
    dsimp only
    rw [Session.doSendHeartbeat]
    split
    · exact .inl ⟨connected, relayed⟩
    · exact .inl ⟨connected, relayed.of_same rfl rfl rfl rfl⟩
  | exit => exact absurd rfl goesOn
  | null =>
    dsimp only
    split
    · rename_i code known
      split
      · exact settles_doSendClose serializes connected relayed (relayed.code code known)
      · exact .inl ⟨connected, relayed⟩
    · exact .inl ⟨connected, relayed⟩

section

variable (connected : s.state = .connected)

include connected

section

variable (relayed : Relayed prims s c)

include relayed

theorem settles_doReadIncomingMessage : Settles prims s.doReadIncomingMessage c := by
  rw [Session.doReadIncomingMessage]
  split
  · exact .inl ⟨connected, relayed⟩
  · exact .inl ⟨connected, relayed.of_same rfl rfl rfl rfl⟩

theorem settles_onProcessData
    (succeeded : errorCode.failed = false) : Settles prims (s.onProcessData errorCode) c := by
  have up : s.down = false := Session.down_ne connected (by decide)
  rw [Session.onProcessData, if_neg (Bool.eq_false_iff.mp up),
    if_neg (Bool.eq_false_iff.mp succeeded)]
  exact settles_doReadIncomingMessage connected relayed

theorem settles_doProcessBuffer
    (buffer : Option Bytes) : Settles prims (s.doProcessBuffer buffer) c := by
  have up : s.down = false := Session.down_ne connected (by decide)
  rw [Session.doProcessBuffer.eq_def, if_neg (Bool.eq_false_iff.mp up)]
  cases buffer with
  | none =>
    exact settles_onProcessData (s := { s with input := s.input ++ [none] }) connected
      (relayed.of_same rfl rfl rfl rfl) rfl
  | some bytes => exact .inl ⟨connected, relayed.of_same rfl rfl rfl rfl⟩

theorem settles_doProcessData
    {type : DataType} (expected : wellFormed prims s.payloadCrypto (.data type payload) = true) :
    Settles prims (s.doProcessData prims settings world type payload) c := by
  have up : s.down = false := Session.down_ne connected (by decide)
  have buffered := settles_doProcessBuffer connected relayed
  cases type with
  | stdIn =>
    rw [Session.doProcessData.eq_def, if_neg (Bool.eq_false_iff.mp up), if_neg (by decide)]
    cases crypto : s.payloadCrypto with
    | none =>
      rw [crypto] at expected
      cases payload with
      | notSet | data bytes | eos => exact buffered _
      | encryptedData encrypted => cases expected
    | some value =>
      rw [crypto] at expected
      cases payload with
      | notSet | data bytes => cases expected
      | eos => exact buffered _
      | encryptedData encrypted =>
        have decrypts : (value.decrypt prims.toPrimitives .stdIn encrypted []).2.failed =
            false := Bool.not_eq_true' _ |>.mp expected
        dsimp only
        rw [if_neg (Bool.eq_false_iff.mp decrypts)]
        exact buffered _
  | _ => cases expected

theorem settles_onReadIncomingData
    (succeeded : errorCode.failed = false)
    (expected : wellFormed prims s.payloadCrypto message = true) :
    Settles prims (s.onReadIncomingData prims settings world errorCode (some message)) c := by
  have up : Session.down { s with readInProgress := false } = false :=
    Session.down_ne connected (by decide)
  have read : Relayed prims { s with readInProgress := false } c := relayed.of_same rfl rfl rfl rfl
  rw [Session.onReadIncomingData.eq_def]
  simp only
  rw [if_neg (Bool.eq_false_iff.mp up), if_neg (by rw [connected]; decide),
    if_neg (Bool.eq_false_iff.mp succeeded), Session.onReadIncomingMessage,
    if_neg (Bool.eq_false_iff.mp up), Session.processMessage.eq_def]
  cases message with
  | heartbeat =>
    rw [if_neg (by decide), if_neg (by simp [Session.isMessageExpected, connected])]
    exact settles_doReadIncomingMessage (s := { s with readInProgress := false }) connected read
  | data type payload =>
    rw [if_neg (by rintro ⟨⟩), if_neg (by simp [Session.isMessageExpected, connected])]
    exact settles_doProcessData (s := { s with readInProgress := false }) connected read expected
  | _ => cases expected

end

end

theorem settles_onReadStdfd (serializes : ∀ message, world.serializes message = true)
    (answers : c.Answers world) (connected : s.state = .connected) (relayed : Relayed prims s c)
    (exhausted : c.pipes stream = [] ∧ c.outputs stream = false) :
    Settles prims (s.onReadStdfd prims settings world stream .endOfStream) c := by
  have up : s.down = false := Session.down_ne connected (by decide)
  rw [Session.onReadStdfd, if_neg (Bool.eq_false_iff.mp up)]
  exact settles_onEndOfStream serializes answers connected relayed exhausted

theorem settles_output (serializes : ∀ message, world.serializes message = true)
    (connected : s.state = .connected) (relayed : Relayed prims s c) {bytes : Bytes}
    (yields : bytes <+: c.pipes stream)
    (encrypts : (s.outputPayload prims world stream bytes).2.failed = false) :
    Settles prims (s.onReadStdfd prims settings world stream (.data bytes))
      (c.isRead stream bytes) := by
  have up : s.down = false := Session.down_ne connected (by decide)
  rw [Session.onReadStdfd, if_neg (Bool.eq_false_iff.mp up)]
  simp only
  rw [if_neg (Bool.eq_false_iff.mp encrypts), doSendMessage_of_serializes up (serializes _)]
  exact .inl ⟨connected, relayed.piece yields (carries_outputPayload encrypts) rfl rfl rfl rfl⟩

end

theorem settles_step {prims : ProofPrimitives} {settings : Settings} {a : Attended} {event : Event}
    {world : World} {t : Session}
    (reaches : Reaches (Session.step prims settings) {} a.session) (live : a.session.Live)
    (connected : a.session.state = .connected) (relayed : Relayed prims a.session a.child)
    (benign : Benign prims a (.handler event world))
    (inputTaken : InputTaken a (.handler event world)) (answers : a.child.Answers world)
    (admits : a.Admits event) (taken : a.session.step prims settings (event, world) = some t) :
    Settles prims t (a.childAfter event) := by
  obtain ⟨s, c⟩ := a
  obtain ⟨serializes, benign⟩ := benign
  simp only at reaches live connected relayed answers taken
  have staying : s.Staying := by
    rw [Session.Staying, connected]
    decide
  have transport := (Session.upgraded reaches).connected connected
  rw [Session.transport, Prod.mk.injEq, Prod.mk.injEq, Prod.mk.injEq] at transport
  obtain ⟨reads, writes, accepts, closes⟩ := transport
  have unclosed : s.Unclosed := live.1 staying.2
  have same (state : t.state = s.state) (crypto : t.payloadCrypto = s.payloadCrypto)
      (sent : t.sent = s.sent) (active : t.activeStreams = s.activeStreams)
      (code : t.returnCode = s.returnCode) : Settles prims t c :=
    .inl ⟨state.trans connected, relayed.of_same crypto sent active code⟩
  cases event with
  | run =>
    cases taken
    rw [Session.asyncRunInternal_of_running prims settings world (by rw [connected]; decide)]
    exact .inl ⟨connected, relayed.of_same rfl rfl rfl rfl⟩
  | cancel | timer | terminationTimer => exact benign.elim
  | heartbeat =>
    obtain ⟨-, ⟨⟩⟩ := ite_none_left_eq_some.mp taken
    rw [doSendMessage_of_serializes (s := { s with heartbeats := s.heartbeats - 1 })
      (Session.down_ne connected (by decide)) (serializes _)]
    exact .inl ⟨connected, relayed.announce (fun _ => pieces_of_not_isData rfl) rfl rfl rfl rfl⟩
  | httpRead result =>
    obtain ⟨guard, -⟩ := ite_none_left_eq_some.mp taken
    exact absurd (.inl reads) guard
  | httpWritten errorCode =>
    obtain ⟨guard, -⟩ := ite_none_left_eq_some.mp taken
    exact absurd writes guard
  | websocketAccepted errorCode =>
    obtain ⟨guard, -⟩ := ite_none_left_eq_some.mp taken
    exact absurd accepts guard
  | websocketClosed =>
    obtain ⟨guard, -⟩ := ite_none_left_eq_some.mp taken
    exact absurd closes guard
  | queueCancelled =>
    obtain ⟨guard, -⟩ := ite_none_left_eq_some.mp taken
    exact absurd unclosed.1 guard
  | received errorCode message =>
    obtain ⟨-, ⟨⟩⟩ := ite_none_right_eq_some.mp taken
    obtain ⟨succeeded, expected⟩ := benign
    obtain ⟨value, rfl, known⟩ := expected connected
    exact settles_onReadIncomingData connected relayed succeeded known
  | sent index errorCode =>
    rw [Session.step] at taken
    simp only at taken
    split at taken
    · cases taken
    · rename_i message loop pending
      cases taken
      refine settles_onSendMessage (s := { s with sends := s.sends.eraseIdx index }) serializes
        connected (relayed.of_same rfl rfl rfl rfl) benign ?_
      rintro rfl
      refine Session.exit_not_mem reaches staying ?_
      exact mem_map.mpr ⟨_, mem_of_getElem? pending, rfl⟩
  | outputRead index result =>
    rw [Session.step] at taken
    simp only at taken
    split at taken
    · cases taken
    · rename_i stream pending
      obtain ⟨-, ⟨⟩⟩ := ite_none_left_eq_some.mp taken
      have yields : c.Yields stream result := admits stream pending
      have dropped : Relayed prims { s with outputReads := s.outputReads.eraseIdx index } c :=
        relayed.of_same rfl rfl rfl rfl
      cases result with
      | data bytes =>
        rw [childAfter]
        simp only [pending]
        exact settles_output (s := { s with outputReads := s.outputReads.eraseIdx index })
          serializes connected dropped yields (benign stream pending)
      | endOfStream =>
        exact settles_onReadStdfd (s := { s with outputReads := s.outputReads.eraseIdx index })
          serializes answers connected dropped yields
      | ioError errorCode | failed errorCode => exact yields.elim
  | inputWritten errorCode =>
    obtain ⟨-, ⟨⟩⟩ := ite_none_left_eq_some.mp taken
    exact settles_onProcessData (s := { s with inputWrites := s.inputWrites - 1 }) connected
      (relayed.of_same rfl rfl rfl rfl) (inputTaken connected)
  | expireChildExit | expireTermination =>
    rw [Session.step] at taken
    simp only at taken
    split at taken
    · cases taken
    · cases taken
      exact same rfl rfl rfl rfl rfl
  | childExitTimer =>
    cases expired : s.childExitExpired with
    | nil =>
      rw [Session.step] at taken
      simp only [expired] at taken
      cases taken
    | cons wait waits =>
      rw [Session.step] at taken
      simp only [expired] at taken
      cases wait with
      | recoverChildExit =>
        cases taken
        exact settles_recoverChildExit (s := { s with childExitExpired := waits }) serializes
          answers connected (relayed.of_same rfl rfl rfl rfl)
      | queueCancelled =>
        refine absurd ?_ unclosed.2.2
        rw [expired]
        exact mem_cons_self

/-! ## Runs -/

/-- The output of the child before, during and after the session is connected. -/
structure Faithful (prims : ProofPrimitives) (a : Attended) : Prop where
  exited : a.child.exitCode ≠ none → ∀ stream, a.child.outputs stream = false
  early : a.session.Early → a.session.opened = false ∧ a.session.child = false ∧
    a.session.returnCode = none ∧ a.child = {}
  connected : a.session.state = .connected → a.session.stream = some .pipe →
    Relayed prims a.session a.child
  left : ¬ a.session.Staying → a.session.opened = true → a.session.stream = some .pipe →
    Delivered prims a

section

variable {prims : ProofPrimitives} {settings : Settings} {world : World} {a b : Attended}
  {event : Event}

theorem faithful_init : Faithful prims {} where
  exited other := absurd rfl other
  early _ := ⟨rfl, rfl, rfl, rfl⟩
  connected other := by cases other
  left other := absurd ⟨nofun, nofun⟩ other

/-- What the child does while it runs. -/
theorem Faithful.child (faithful : Faithful prims a) (started : a.session.child = true)
    (running : a.child.exitCode = none) {c : Child}
    (exited : c.exitCode ≠ none → ∀ stream, c.outputs stream = false)
    (relayed : Relayed prims a.session a.child → Relayed prims a.session c) :
    Faithful prims { a with child := c } where
  exited := exited
  early early := by
    cases started.symm.trans (faithful.early early).2.1
  connected connected pipe := relayed (faithful.connected connected pipe)
  left gone opened pipe := by
    obtain ⟨before, code, after, -, other, -⟩ := faithful.left gone opened pipe
    cases running.symm.trans other

theorem Relayed.writes {s : Session} {c : Child} (relayed : Relayed prims s c)
    {stream : OutputStream} (isOpen : c.outputs stream = true) (bytes : Bytes) :
    Relayed prims s (c.writes stream bytes) where
  carried other := by
    obtain ⟨earlier, holds, all⟩ := relayed.carried other
    refine ⟨earlier, holds, ?_⟩
    show earlier ++ update c.pipes stream (c.pipes stream ++ bytes) other =
      update c.wrote stream (c.wrote stream ++ bytes) other
    by_cases same : other = stream
    · subst same
      rw [update_self, update_self, ← append_assoc, all]
    · rw [update_of_ne same, update_of_ne same]
      exact all
  ended other gone := by
    obtain ⟨empty, closed⟩ := relayed.ended other gone
    refine ⟨?_, closed⟩
    show update c.pipes stream (c.pipes stream ++ bytes) other = []
    by_cases same : other = stream
    · rw [same, isOpen] at closed
      cases closed
    · rw [update_of_ne same]
      exact empty
  code := relayed.code

theorem Relayed.closes {s : Session} {c : Child} (relayed : Relayed prims s c)
    (stream : OutputStream) : Relayed prims s (c.closes stream) where
  carried := relayed.carried
  ended other gone := by
    obtain ⟨empty, closed⟩ := relayed.ended other gone
    refine ⟨empty, ?_⟩
    show update c.outputs stream false other = false
    by_cases same : other = stream
    · rw [same, update_self]
    · rw [update_of_ne same]
      exact closed
  code := relayed.code

theorem Relayed.exits {s : Session} {c : Child} (relayed : Relayed prims s c)
    (running : c.exitCode = none) (code : Int) : Relayed prims s (c.exits code) where
  carried := relayed.carried
  ended other gone := ⟨(relayed.ended other gone).1, rfl⟩
  code other known := by
    cases running.symm.trans (relayed.code other known)

theorem childAfter_exitCode (a : Attended) (event : Event) :
    (a.childAfter event).exitCode = a.child.exitCode ∧
      (a.childAfter event).outputs = a.child.outputs ∧
      (a.childAfter event).wrote = a.child.wrote := by
  rw [childAfter.eq_def]
  split
  · split
    · exact ⟨rfl, rfl, rfl⟩
    · exact ⟨rfl, rfl, rfl⟩
  · exact ⟨rfl, rfl, rfl⟩

theorem Delivered.later {s t : Session} {c d : Child} (delivered : Delivered prims ⟨s, c⟩)
    (continues : Continues s.view t.view) (exitCode : d.exitCode = c.exitCode)
    (wrote : d.wrote = c.wrote) : Delivered prims ⟨t, d⟩ := by
  obtain ⟨before, code, after, sent, exited, holds⟩ := delivered
  obtain ⟨later, grows⟩ := continues.sent
  refine ⟨before, code, after ++ later, ?_, exitCode.trans exited, fun stream => ?_⟩
  · show t.sent = before ++ .close code :: (after ++ later)
    have sent : s.sent = before ++ .close code :: after := sent
    have grows : s.sent ++ later = t.sent := grows
    rw [← grows, sent, append_assoc, cons_append]
  · have crypto : t.payloadCrypto = s.payloadCrypto := continues.payloadCrypto
    show Holds prims t.payloadCrypto stream before (d.wrote stream)
    rw [crypto, wrote]
    exact holds stream

theorem isRead_init (stream : OutputStream) (bytes : Bytes) : Child.isRead stream bytes {} = {} := by
  have empty : update (fun _ => []) stream (([] : Bytes).drop bytes.length) =
      fun _ : OutputStream => ([] : Bytes) := by
    funext other
    rw [drop_nil, update_eq_self]
  rw [Child.isRead]
  simp only [empty]

theorem childAfter_init {s : Session} (event : Event) : childAfter ⟨s, {}⟩ event = {} := by
  rw [childAfter.eq_def]
  split
  · split
    · exact isRead_init _ _
    · rfl
  · rfl

/-- What `run_loop` starts. -/
theorem runLoop_of_up (settings : Settings) {s : Session} (up : s.down = false) :
    ∃ readInProgress heartbeats childExitArmed, s.runLoop settings =
      { s with
        activeStreams := outputStreams s.stream
        outputReads := s.outputReads ++ outputStreams s.stream
        readInProgress, heartbeats, childExitArmed } := by
  have reads : ∀ r : Session, ∃ readInProgress,
      r.doReadIncomingMessage = { r with readInProgress } := by
    intro r
    rw [Session.doReadIncomingMessage]
    split
    · exact ⟨r.readInProgress, rfl⟩
    · exact ⟨true, rfl⟩
  have beats : ∀ r : Session, ∃ heartbeats, r.doSendHeartbeat settings = { r with heartbeats } := by
    intro r
    rw [Session.doSendHeartbeat]
    split
    · exact ⟨r.heartbeats, rfl⟩
    · exact ⟨r.heartbeats + 1, rfl⟩
  have polls : ∀ r : Session, ∃ childExitArmed, r.armChildExitTimer = { r with childExitArmed } := by
    intro r
    rw [Session.armChildExitTimer]
    split
    · exact ⟨r.childExitArmed, rfl⟩
    · exact ⟨some .recoverChildExit, rfl⟩
  rw [Session.runLoop, Session.readStdfdLoop_of_up up]
  obtain ⟨readInProgress, read⟩ := reads { s with
    activeStreams := outputStreams s.stream
    outputReads := s.outputReads ++ outputStreams s.stream }
  rw [read]
  obtain ⟨heartbeats, beat⟩ := beats { s with
    activeStreams := outputStreams s.stream
    outputReads := s.outputReads ++ outputStreams s.stream
    readInProgress }
  rw [beat]
  obtain ⟨childExitArmed, polled⟩ := polls { s with
    activeStreams := outputStreams s.stream
    outputReads := s.outputReads ++ outputStreams s.stream
    readInProgress, heartbeats }
  exact ⟨readInProgress, heartbeats, childExitArmed, polled⟩

theorem relayed_of_opens (prims : ProofPrimitives) {s t : Session} (opens : Session.Opens world settings s t)
    (serializes : ∀ message, world.serializes message = true)
    (noData : ∀ message ∈ s.sent, message.isData = false) (fresh : s.returnCode = none) :
    t.state = .connected ∧ (t.stream = some .pipe → Relayed prims t {}) := by
  obtain ⟨-, payloadCrypto, backend, launches, rfl⟩ := opens
  rw [doSendMessage_of_serializes (s := (s.admitted payloadCrypto).launched backend launches) rfl
    (serializes _)]
  obtain ⟨readInProgress, heartbeats, childExitArmed, runs⟩ := runLoop_of_up settings
    (s := { (s.admitted payloadCrypto).launched backend launches with
      sends := ((s.admitted payloadCrypto).launched backend launches).sends ++ [(.ack, .null)]
      sent := ((s.admitted payloadCrypto).launched backend launches).sent ++ [.ack] }) rfl
  rw [runs]
  refine ⟨rfl, fun pipe => ⟨fun stream => ⟨[], ?_, rfl⟩, fun stream gone => ?_, fun code known => ?_⟩⟩
  · exact (holds_nil noData).snoc rfl
  · refine absurd ?_ gone
    show stream ∈ outputStreams (some backend)
    have isPipe : some backend = some Backend.pipe := pipe
    rw [isPipe]
    cases stream with
    | stdOut | stdErr => decide
  · cases fresh.symm.trans known

/-- A handler of a session that has not been opened. -/
theorem Faithful.early_step {s t : Session}
    (reaches : Reaches (Session.step prims settings) {} s) (live : s.Live)
    (faithful : Faithful prims ⟨s, {}⟩) (early : s.Early)
    (serializes : ∀ message, world.serializes message = true)
    (taken : s.step prims settings (event, world) = some t) : Faithful prims ⟨t, {}⟩ := by
  obtain ⟨unopened, childless, uncoded, -⟩ := faithful.early early
  have unconnected : s.state ≠ .connected := by
    rcases early with null | connecting
    · rw [null]
      decide
    · rw [connecting]
      decide
  -- Whatever else a handler does here, it does not open the session.
  have unchanged {r : Session} (state : r.state ≠ .connected) (opened : r.opened = s.opened)
      (child : r.child = s.child) (returnCode : r.returnCode = s.returnCode)
      (tended : Session.Tended world r t) : Faithful prims ⟨t, {}⟩ := by
    have openedToo := (tended.opened.trans opened).trans unopened
    refine ⟨fun other => absurd rfl other, fun _ => ?_, fun connected => ?_, fun _ opens => ?_⟩
    · exact ⟨openedToo, (tended.child.trans child).trans childless,
        ((tended.returnCode state).trans returnCode).trans uncoded, rfl⟩
    · exact absurd (tended.proceeds.back connected (by decide)) state
    · cases openedToo.symm.trans opens
  rcases Session.step_tended prims settings world live taken with
    tended | ⟨-, tended⟩ | ⟨-, opens⟩
  · exact unchanged unconnected rfl rfl rfl tended
  · exact unchanged (r := s.begun) nofun rfl rfl rfl tended
  · have noData := ((Session.outputInv reaches).early early).2
    obtain ⟨connected, relayed⟩ := relayed_of_opens prims opens serializes noData uncoded
    refine ⟨fun other => absurd rfl other, fun early => ?_, fun _ => relayed, fun gone => ?_⟩
    · rcases early with null | connecting
      · cases connected.symm.trans null
      · cases connected.symm.trans connecting
    · refine absurd ?_ gone
      show t.Staying
      rw [Session.Staying, connected]
      decide

theorem Faithful.left_step {t : Session} (live : a.session.Live) (faithful : Faithful prims a)
    (gone : ¬ a.session.Staying) (taken : a.session.step prims settings (event, world) = some t) :
    Faithful prims ⟨t, a.childAfter event⟩ := by
  obtain ⟨exitCode, outputs, wrote⟩ := childAfter_exitCode a event
  have late : a.session.state ≠ .null ∧ a.session.state ≠ .connecting := by
    refine ⟨fun null => gone ?_, fun connecting => gone ?_⟩
    · rw [Session.Staying, null]
      decide
    · rw [Session.Staying, connecting]
      decide
  have goneToo : ¬ t.Staying := fun staying => gone (Session.staying_of_step live taken staying)
  have continues := Continues.of_step late taken
  refine ⟨?_, fun early => ?_, fun connected => ?_, fun _ opened pipe => ?_⟩
  · show (a.childAfter event).exitCode ≠ none → _
    rw [exitCode, outputs]
    exact faithful.exited
  · rcases early with null | connecting
    · exact absurd null continues.state.1
    · exact absurd connecting continues.state.2
  · refine absurd ?_ goneToo
    rw [Session.Staying, show t.state = .connected from connected]
    decide
  · refine Delivered.later (faithful.left gone ?_ ?_) continues exitCode wrote
    · rcases Session.step_tended prims settings world live taken with
        tended | ⟨null, -⟩ | ⟨-, connecting, -⟩
      · exact tended.opened.symm.trans opened
      · exact absurd null late.1
      · exact absurd connecting late.2
    · exact continues.stream.symm.trans pipe

theorem Faithful.connected_step {t : Session}
    (reaches : Reaches (Session.step prims settings) {} a.session) (live : a.session.Live)
    (faithful : Faithful prims a) (connected : a.session.state = .connected)
    (benign : Benign prims a (.handler event world))
    (inputTaken : InputTaken a (.handler event world)) (answers : a.child.Answers world)
    (admits : a.Admits event) (taken : a.session.step prims settings (event, world) = some t) :
    Faithful prims ⟨t, a.childAfter event⟩ := by
  obtain ⟨exitCode, outputs, -⟩ := childAfter_exitCode a event
  have continues := Continues.of_step (by rw [connected]; decide) taken
  have settles : t.stream = some .pipe → Settles prims t (a.childAfter event) := by
    intro pipe
    have relayed := faithful.connected connected (continues.stream.symm.trans pipe)
    exact settles_step reaches live connected relayed benign inputTaken answers admits taken
  refine ⟨?_, fun early => ?_, fun still pipe => ?_, fun gone _ pipe => ?_⟩
  · show (a.childAfter event).exitCode ≠ none → _
    rw [exitCode, outputs]
    exact faithful.exited
  · rcases early with null | connecting
    · exact absurd null continues.state.1
    · exact absurd connecting continues.state.2
  · rcases settles pipe with ⟨-, relayed⟩ | ⟨gone, -⟩
    · exact relayed
    · refine absurd ?_ gone
      rw [Session.Staying, show t.state = .connected from still]
      decide
  · rcases settles pipe with ⟨still, -⟩ | ⟨-, delivered⟩
    · refine absurd ?_ gone
      show t.Staying
      rw [Session.Staying, still]
      decide
    · exact delivered

variable {happening : Happening}

theorem faithful_step (reaches : Reaches (Session.step prims settings) {} a.session)
    (faithful : Faithful prims a) (benign : Benign prims a happening)
    (inputTaken : InputTaken a happening) (taken : step prims settings a happening = some b) :
    Faithful prims b := by
  cases happening with
  | writes stream bytes =>
    obtain ⟨⟨started, running, isOpen⟩, ⟨⟩⟩ := ite_none_right_eq_some.mp taken
    refine faithful.child started running (fun other => absurd running other) ?_
    exact fun relayed => relayed.writes isOpen bytes
  | closes stream =>
    obtain ⟨⟨started, running⟩, ⟨⟩⟩ := ite_none_right_eq_some.mp taken
    refine faithful.child started running (fun other => absurd running other) ?_
    exact fun relayed => relayed.closes stream
  | closesStdin =>
    obtain ⟨⟨started, running⟩, ⟨⟩⟩ := ite_none_right_eq_some.mp taken
    refine faithful.child started running (fun other => absurd running other) ?_
    exact fun relayed => ⟨relayed.carried, relayed.ended, relayed.code⟩
  | exits code =>
    obtain ⟨⟨started, running⟩, ⟨⟩⟩ := ite_none_right_eq_some.mp taken
    refine faithful.child started running (fun _ _ => rfl) ?_
    exact fun relayed => relayed.exits running code
  | handler event world =>
    obtain ⟨⟨answers, admits⟩, stepped⟩ := ite_none_right_eq_some.mp taken
    obtain ⟨t, handled, rfl⟩ := map_eq_some_iff.mp stepped
    have live : a.session.Live := reaches.invariant Session.live_init
      fun _ _ _ kept _ next => Session.step_live prims settings kept next
    have opening (early : a.session.Early) : Faithful prims ⟨t, a.childAfter event⟩ := by
      obtain ⟨s, c⟩ := a
      obtain rfl : c = {} := (faithful.early early).2.2.2
      rw [childAfter_init]
      exact faithful.early_step reaches live early benign.1 handled
    by_cases staying : a.session.Staying
    · rcases staying.cases with null | connecting | connected
      · exact opening (.inl null)
      · exact opening (.inr connecting)
      · exact faithful.connected_step reaches live connected benign inputTaken answers admits
          handled
    · exact faithful.left_step live staying handled

/-- The handlers in a run of a session and its child are a run of the session. -/
theorem reaches_session (reaches : Reaches (Session.step prims settings) {} a.session)
    (taken : step prims settings a happening = some b) :
    Reaches (Session.step prims settings) {} b.session := by
  cases happening with
  | writes stream bytes | closes stream | closesStdin | exits code =>
    obtain ⟨-, ⟨⟩⟩ := ite_none_right_eq_some.mp taken
    exact reaches
  | handler event world =>
    obtain ⟨-, stepped⟩ := ite_none_right_eq_some.mp taken
    obtain ⟨t, handled, rfl⟩ := map_eq_some_iff.mp stepped
    exact reaches.tail trivial handled

end

/-- **The output and the exit code are delivered.** In every run in which no write to the input
of the child fails while the session is connected, a session with pipes that has left has
handed a `Close` with the exit code of the child to the queue, after messages that hold
exactly what the child wrote. -/
theorem delivered_of_inputTaken (prims : ProofPrimitives) (settings : Settings) (a : Attended)
    (run : Run (step prims settings) (fun a happening => Benign prims a happening ∧
      InputTaken a happening) {} a)
    (opened : a.session.opened = true) (gone : a.session.state ≠ .connected)
    (pipe : a.session.stream = some .pipe) : Delivered prims a := by
  have kept : Reaches (Session.step prims settings) {} a.session ∧ Faithful prims a := by
    refine run.invariant (p := fun a => Reaches (Session.step prims settings) {} a.session ∧
      Faithful prims a) ⟨.refl, faithful_init⟩ ?_
    rintro s happening t ⟨reaches, faithful⟩ ⟨benign, inputTaken⟩ taken
    exact ⟨reaches_session reaches taken,
      faithful_step reaches faithful benign inputTaken taken⟩
  obtain ⟨-, faithful⟩ := kept
  refine faithful.left (fun staying => ?_) opened pipe
  have unopened (early : a.session.Early) : False := by
    cases opened.symm.trans (faithful.early early).1
  rcases staying.cases with null | connecting | connected
  · exact unopened (.inl null)
  · exact unopened (.inr connecting)
  · exact gone connected

/-- The client sends input, which the child reads; the child writes to its output and exits. -/
def relayedRun : List Happening :=
  [.handler .run {},
    .handler (.received .none (some (.open_ { config := some { cmdArgs := [[115, 104]] } }))) {},
    .handler (.received .none (some (.data .stdIn (.data [7])))) {},
    .handler (.inputWritten .none) {}, .writes .stdOut [104, 105],
    .handler (.outputRead 0 (.data [104, 105])) {}, .handler (.sent 1 .none) {}, .exits 3,
    .handler .expireChildExit {},
    .handler .childExitTimer { recoverExit := (true, .none), exitCode := 3 },
    .handler (.outputRead 1 .endOfStream) {}, .handler (.outputRead 0 .endOfStream) {},
    .handler (.sent 1 .none) {}]

/-- The session and the child at the end of a run. -/
def atEnd (happenings : List Happening) : Attended :=
  (exec (step sampleProofPrims {}) {} happenings).getD {}

theorem delivered_relayedRun :
    (atEnd relayedRun).session.sent = [.ack, .data .stdOut (.data [104, 105]), .data .stdOut .eos,
        .data .stdErr .eos, .close 3] ∧
      (atEnd relayedRun).child.wrote .stdOut = [104, 105] ∧
      Delivered sampleProofPrims (atEnd relayedRun) := by
  have executed : exec (step sampleProofPrims {}) {} relayedRun = some (atEnd relayedRun) :=
    rfl
  refine ⟨rfl, rfl, delivered_of_inputTaken sampleProofPrims {} _
    (Run.of_exec ?_ executed) rfl nofun rfl⟩
  exact ⟨⟨⟨fun _ => rfl, trivial⟩, trivial⟩, ⟨⟨fun _ => rfl, rfl, nofun⟩, trivial⟩,
    ⟨⟨fun _ => rfl, rfl, fun _ => ⟨_, rfl, rfl⟩⟩, trivial⟩,
    ⟨⟨fun _ => rfl, trivial⟩, fun _ => rfl⟩, ⟨trivial, trivial⟩,
    ⟨⟨fun _ => rfl, fun _ _ => rfl⟩, trivial⟩, ⟨⟨fun _ => rfl, rfl⟩, trivial⟩, ⟨trivial, trivial⟩,
    ⟨⟨fun _ => rfl, trivial⟩, trivial⟩, ⟨⟨fun _ => rfl, trivial⟩, trivial⟩,
    ⟨⟨fun _ => rfl, trivial⟩, trivial⟩, ⟨⟨fun _ => rfl, trivial⟩, trivial⟩,
    ⟨⟨fun _ => rfl, rfl⟩, trivial⟩, trivial⟩

/-- The client sends input, the child writes to its output and stops reading, and the write to
its input fails. -/
def inputRefused : List Happening :=
  [.handler .run {},
    .handler (.received .none (some (.open_ { config := some { cmdArgs := [[115, 104]] } }))) {},
    .handler (.received .none (some (.data .stdIn (.data [7])))) {}, .writes .stdOut [1, 2],
    .closesStdin, .handler (.inputWritten brokenPipe) {}]

/-- The session ends while the child runs: the client gets neither the output nor a `Close`. -/
theorem not_delivered_inputRefused :
    Run (step sampleProofPrims {}) (Benign sampleProofPrims) {} (atEnd inputRefused) ∧
      (atEnd inputRefused).session.opened = true ∧
      (atEnd inputRefused).session.state = .disconnected ∧
      (atEnd inputRefused).session.stream = some .pipe ∧
      (atEnd inputRefused).child.wrote .stdOut = [1, 2] ∧
      (atEnd inputRefused).session.sent = [.ack] ∧
      ¬ Delivered sampleProofPrims (atEnd inputRefused) := by
  have sent : (atEnd inputRefused).session.sent = [.ack] := by decide
  refine ⟨Run.of_exec_getD inputRefused ?_ (by decide), by decide, by decide, by decide,
    by decide, sent, ?_⟩
  · exact ⟨⟨fun _ => rfl, trivial⟩, ⟨fun _ => rfl, rfl, nofun⟩,
      ⟨fun _ => rfl, rfl, fun _ => ⟨_, rfl, rfl⟩⟩, trivial, trivial, ⟨fun _ => rfl, trivial⟩,
      trivial⟩
  · rintro ⟨before, code, after, split, -⟩
    have mem : Message.close code ∈ (atEnd inputRefused).session.sent := by
      rw [split]
      exact mem_append_right _ mem_cons_self
    rw [sent] at mem
    cases mem_singleton.mp mem

end Attended

end Rstream.Webtty.Server
