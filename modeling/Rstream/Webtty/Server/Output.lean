import Rstream.Webtty.Server.Effects
import Rstream.Webtty.Server.Execution

/-!
# The order of what a session sends

A stream of the child has one token: a read of it, or the message with what was read,
is in flight, and only while the stream is active (`OutputInv.token`). So the end of a
stream is announced when nothing else of the stream can follow, and the session, which
closes only when no stream is active, has announced the end of every stream by then.
-/

namespace Rstream.Webtty.Server

open Library List
open IoRstrm (ErrorCode)

/-- The end of an output stream. -/
def OutputStream.eos (stream : OutputStream) : Message := .data stream.dataType .eos

/-- A piece of output of a stream, or its end. -/
def Message.isDataOf (stream : OutputStream) : Message → Bool
  | .data type _ => decide (type = stream.dataType)
  | _ => false

def Message.isData : Message → Bool
  | .data _ _ => true
  | _ => false

def Message.isClose : Message → Bool
  | .close _ => true
  | _ => false

theorem Message.terminal_of_isClose {message : Message} (close : message.isClose = true) :
    message.terminal = true := by
  cases message with
  | close code => rfl
  | _ => cases close

/-- What may follow a message. -/
structure Follows (earlier later : Message) : Prop where
  terminal : earlier.terminal = true → later.terminal = false
  eos : ∀ stream : OutputStream, earlier = stream.eos → later.isDataOf stream = false
  close : earlier.isClose = true → later.isData = false

namespace View

/-- What is in flight for a stream. -/
def token (s : View) (stream : OutputStream) : Nat :=
  s.outputReads.count stream + s.sends.count stream.loop

/-- The invariant of the output of a session. -/
structure OutputInv (s : View) : Prop where
  ordered : s.sent.Pairwise Follows
  token : s.state ≠ .disconnected → ∀ stream,
    s.token stream ≤ if stream ∈ s.activeStreams then 1 else 0
  nodup : s.state ≠ .disconnected → s.activeStreams.Nodup
  active : s.state ≠ .disconnected → ∀ stream ∈ s.activeStreams, stream.eos ∉ s.sent
  opened : s.state = .connected → ∀ stream ∈ outputStreams s.stream,
    stream ∈ s.activeStreams ∨ stream.eos ∈ s.sent
  early : s.state = .null ∨ s.state = .connecting →
    s.activeStreams = [] ∧ ∀ message ∈ s.sent, message.isData = false
  running : s.state = .null ∨ s.state = .connecting ∨ s.state = .connected →
    ∀ message ∈ s.sent, message.terminal = false
  closed : ∀ message ∈ s.sent, message.isClose = true →
    (s.state ≠ .disconnected → s.activeStreams = []) ∧
      ∀ stream ∈ outputStreams s.stream, stream.eos ∈ s.sent

namespace OutputInv

variable {s t : View}

/-- A change that hands nothing to the queue and starts nothing. -/
theorem of_same (inv : s.OutputInv) (state : t.state = s.state)
    (stream : t.stream = s.stream) (active : t.activeStreams = s.activeStreams)
    (sent : t.sent = s.sent) (token : ∀ stream, t.token stream ≤ s.token stream) :
    t.OutputInv where
  ordered := by
    rw [sent]
    exact inv.ordered
  token running stream := by
    rw [state] at running
    rw [active]
    exact (token stream).trans (inv.token running stream)
  nodup := by
    rw [state, active]
    exact inv.nodup
  active := by
    rw [state, active, sent]
    exact inv.active
  opened := by
    rw [state, active, sent, stream]
    exact inv.opened
  early := by
    rw [state, active, sent]
    exact inv.early
  running := by
    rw [state, sent]
    exact inv.running
  closed := by
    rw [state, active, sent, stream]
    exact inv.closed

/-- A session that ends sends nothing more. -/
theorem of_disconnected (inv : s.OutputInv) (state : t.state = .disconnected)
    (stream : t.stream = s.stream) (sent : t.sent = s.sent) : t.OutputInv where
  ordered := by
    rw [sent]
    exact inv.ordered
  token running := absurd state running
  nodup running := absurd state running
  active running := absurd state running
  opened connected := by cases connected.symm.trans state
  early early := by
    rcases early with null | connecting
    · cases null.symm.trans state
    · cases connecting.symm.trans state
  running running := by
    rcases running with null | connecting | connected
    · cases null.symm.trans state
    · cases connecting.symm.trans state
    · cases connected.symm.trans state
  closed message mem close := by
    rw [sent] at mem ⊢
    rw [stream]
    exact ⟨fun running => absurd state running, (inv.closed message mem close).2⟩

variable {stream : OutputStream} {message last : Message} {index : Nat}

theorem mem_active (inv : s.OutputInv) (running : s.state ≠ .disconnected)
    (busy : 0 < s.token stream) : stream ∈ s.activeStreams := by
  have bound := inv.token running stream
  by_cases active : stream ∈ s.activeStreams
  · exact active
  · rw [if_neg active] at bound
    omega

/-- While a stream is active nothing has closed the session. -/
theorem not_close (inv : s.OutputInv) (running : s.state ≠ .disconnected)
    (active : stream ∈ s.activeStreams) (mem : message ∈ s.sent) : message.isClose = false := by
  refine Bool.eq_false_iff.mpr fun close => ?_
  rw [(inv.closed message mem close).1 running] at active
  cases active

theorem follows_data (inv : s.OutputInv) (running : s.state ≠ .disconnected)
    (active : stream ∈ s.activeStreams) (payload : DataPayload) (mem : message ∈ s.sent) :
    Follows message (.data stream.dataType payload) where
  terminal _ := rfl
  eos other same := by
    refine decide_eq_false fun type => ?_
    rw [OutputStream.dataType_injective type] at active
    rw [same] at mem
    exact inv.active running other active mem
  close close := by
    rw [inv.not_close running active mem] at close
    cases close

theorem follows_terminal (running : ∀ message ∈ s.sent, message.terminal = false)
    (plain : last.isData = false) (mem : message ∈ s.sent) :
    Follows message last where
  terminal terminal := by
    rw [running message mem] at terminal
    cases terminal
  eos stream _ := by
    cases last with
    | data type payload => cases plain
    | _ => rfl
  close _ := plain

theorem ordered_snoc (inv : s.OutputInv) (follows : ∀ message ∈ s.sent, Follows message last) :
    (s.sent ++ [last]).Pairwise Follows :=
  pairwise_append.mpr ⟨inv.ordered, pairwise_singleton _ _,
    fun message mem _ same => mem_singleton.mp same ▸ follows message mem⟩

/-- What a session sends besides terminal messages and output changes nothing. -/
theorem of_announce (inv : s.OutputInv) {loop : Loop} (plain : message.neutral = true)
    (outside : loop.neutral = true) :
    OutputInv { s with sends := s.sends ++ [loop], sent := s.sent ++ [message] } := by
  have terminal : message.terminal = false := by
    cases message with
    | serverHello value | ack | heartbeat => rfl
    | _ => cases plain
  have data : message.isData = false := by
    cases message with
    | serverHello value | ack | heartbeat => rfl
    | _ => cases plain
  have close : message.isClose = false := by
    cases message with
    | close code => cases plain
    | _ => rfl
  have eos (stream : OutputStream) : stream.eos ≠ message := by
    rintro rfl
    cases data
  have mem_eos {stream : OutputStream} : stream.eos ∈ s.sent ++ [message] ↔ stream.eos ∈ s.sent := by
    rw [mem_append, mem_singleton, or_iff_left (eos stream)]
  have apart (stream : OutputStream) : stream.loop ≠ loop := by
    cases stream with
    | stdOut | stdErr =>
      rintro rfl
      cases outside
  refine ⟨inv.ordered_snoc ?_, ?_, inv.nodup, ?_, ?_, ?_, ?_, ?_⟩
  · intro earlier mem
    refine ⟨fun _ => terminal, fun stream _ => ?_, fun _ => data⟩
    cases message with
    | data type payload => cases data
    | _ => rfl
  · intro running stream
    show s.outputReads.count stream + (s.sends ++ [loop]).count stream.loop ≤ _
    rw [count_append, count_singleton, if_neg (by
      rw [beq_iff_eq]
      exact (apart stream).symm)]
    exact inv.token running stream
  · intro running stream active
    rw [mem_eos]
    exact inv.active running stream active
  · intro connected stream mem
    rw [mem_eos]
    exact inv.opened connected stream mem
  · intro early
    obtain ⟨inactive, none⟩ := inv.early early
    refine ⟨inactive, fun earlier mem => ?_⟩
    rcases mem_append.mp mem with old | new
    · exact none earlier old
    · rw [mem_singleton.mp new]
      exact data
  · intro running earlier mem
    rcases mem_append.mp mem with old | new
    · exact inv.running running earlier old
    · rw [mem_singleton.mp new]
      exact terminal
  · intro earlier mem closes
    rcases mem_append.mp mem with old | new
    · obtain ⟨inactive, ended⟩ := inv.closed earlier old closes
      exact ⟨inactive, fun stream mem => mem_eos.mpr (ended stream mem)⟩
    · rw [mem_singleton.mp new, close] at closes
      cases closes

/-- A terminal message leaves the states in which one may be sent. -/
theorem of_terminal (inv : s.OutputInv) (running : s.state = .connecting ∨ s.state = .connected)
    (plain : last.isData = false)
    (drained : last.isClose = true → s.state = .connected ∧ s.activeStreams = []) :
    OutputInv
      { s with
        state := .disconnecting, sends := s.sends ++ [.exit], sent := s.sent ++ [last] } := by
  have up : s.state ≠ .disconnected := by
    rcases running with connecting | connected
    · exact fun disconnected => by cases connecting.symm.trans disconnected
    · exact fun disconnected => by cases connected.symm.trans disconnected
  have mem_eos {stream : OutputStream} : stream.eos ∈ s.sent ++ [last] ↔ stream.eos ∈ s.sent := by
    rw [mem_append, mem_singleton, or_iff_left]
    rintro rfl
    cases plain
  have apart (stream : OutputStream) : (Loop.exit == stream.loop) = false := by
    cases stream with
    | stdOut | stdErr => rfl
  refine ⟨inv.ordered_snoc ?_, ?_, fun _ => inv.nodup up, ?_, nofun, ?_, ?_, ?_⟩
  · exact fun message mem => follows_terminal (inv.running (.inr running)) plain mem
  · intro _ stream
    show s.outputReads.count stream + (s.sends ++ [Loop.exit]).count stream.loop ≤ _
    rw [count_append, count_singleton, if_neg (Bool.eq_false_iff.mp (apart stream))]
    exact inv.token up stream
  · intro _ stream active
    rw [mem_eos]
    exact inv.active up stream active
  · intro early
    rcases early with null | connecting
    · cases null
    · cases connecting
  · intro early
    rcases early with null | connecting | connected
    · cases null
    · cases connecting
    · cases connected
  · intro message mem close
    rcases mem_append.mp mem with old | new
    · obtain ⟨inactive, ended⟩ := inv.closed message old close
      exact ⟨fun _ => inactive up, fun stream mem => mem_eos.mpr (ended stream mem)⟩
    · rw [mem_singleton.mp new] at close
      obtain ⟨connected, inactive⟩ := drained close
      refine ⟨fun _ => inactive, fun stream mem => mem_eos.mpr ?_⟩
      rcases inv.opened connected stream mem with active | ended
      · rw [inactive] at active
        cases active
      · exact ended

theorem token_pos_of_read (taken : s.outputReads[index]? = some stream) : 0 < s.token stream := by
  have counted : 0 < s.outputReads.count stream :=
    count_pos_iff.mpr (mem_of_taken taken)
  rw [View.token]
  omega

theorem token_output (taken : s.outputReads[index]? = some stream) (other : OutputStream) :
    (s.outputReads.eraseIdx index).count other + (s.sends ++ [stream.loop]).count other.loop =
      s.token other := by
  rw [View.token, count_append, count_singleton,
    count_of_taken taken other]
  by_cases same : stream = other
  · rw [if_pos same, if_pos (by rw [same, beq_iff_eq])]
    omega
  · rw [if_neg same, if_neg (by rw [beq_iff_eq]; exact mt OutputStream.loop_injective same)]
    omega

theorem token_resume (taken : s.sends[index]? = some stream.loop) (other : OutputStream) :
    (s.outputReads ++ [stream]).count other + (s.sends.eraseIdx index).count other.loop =
      s.token other := by
  rw [View.token, count_append, count_singleton,
    count_of_taken taken other.loop]
  by_cases same : stream = other
  · rw [if_pos (beq_iff_eq.mpr same), if_pos (by rw [same])]
    omega
  · rw [if_neg (mt beq_iff_eq.mp same), if_neg (mt OutputStream.loop_injective same)]
    omega

theorem of_output (inv : s.OutputInv) (up : s.state ≠ .disconnected) {payload : DataPayload}
    (piece : payload ≠ .eos) (taken : s.outputReads[index]? = some stream) :
    OutputInv
      { s with
        outputReads := s.outputReads.eraseIdx index, sends := s.sends ++ [stream.loop]
        sent := s.sent ++ [.data stream.dataType payload] } := by
  have active := inv.mem_active up (token_pos_of_read taken)
  have mem_eos {other : OutputStream} :
      other.eos ∈ s.sent ++ [.data stream.dataType payload] ↔ other.eos ∈ s.sent := by
    rw [mem_append, mem_singleton, or_iff_left]
    intro same
    rw [OutputStream.eos] at same
    injection same with _ payload
    exact piece payload.symm
  refine ⟨inv.ordered_snoc ?_, ?_, inv.nodup, ?_, ?_, ?_, ?_, ?_⟩
  · exact fun message mem => inv.follows_data up active payload mem
  · intro _ other
    exact (token_output taken other).le.trans (inv.token up other)
  · intro _ other mem
    rw [mem_eos]
    exact inv.active up other mem
  · intro connected other mem
    rw [mem_eos]
    exact inv.opened connected other mem
  · intro early
    rw [(inv.early early).1] at active
    cases active
  · intro running message mem
    rcases mem_append.mp mem with old | new
    · exact inv.running running message old
    · rw [mem_singleton.mp new]
      rfl
  · intro message mem close
    rcases mem_append.mp mem with old | new
    · rw [inv.not_close up active old] at close
      cases close
    · rw [mem_singleton.mp new] at close
      cases close

/-- The end of an active stream: its token is gone. -/
theorem token_endStream (inv : s.OutputInv) (up : s.state ≠ .disconnected)
    (taken : s.outputReads[index]? = some stream) (other : OutputStream) :
    (s.outputReads.eraseIdx index).count other + (s.sends ++ [Loop.null]).count other.loop ≤
      if other ∈ s.activeStreams.erase stream then 1 else 0 := by
  have bound := inv.token up other
  have apart : (Loop.null == other.loop) = false := by
    cases other with
    | stdOut | stdErr => rfl
  rw [View.token, count_of_taken taken other] at bound
  rw [count_append, count_singleton, if_neg (Bool.eq_false_iff.mp apart)]
  simp only [List.Nodup.mem_erase_iff (inv.nodup up)]
  by_cases same : stream = other
  · rw [if_pos same] at bound
    rw [if_neg fun both => both.1 same.symm]
    by_cases active : other ∈ s.activeStreams
    · rw [if_pos active] at bound
      omega
    · rw [if_neg active] at bound
      omega
  · rw [if_neg same] at bound
    by_cases active : other ∈ s.activeStreams
    · rw [if_pos active] at bound
      rw [if_pos ⟨Ne.symm same, active⟩]
      omega
    · rw [if_neg active] at bound
      omega

theorem of_endStream (inv : s.OutputInv) (up : s.state ≠ .disconnected)
    (taken : s.outputReads[index]? = some stream) :
    OutputInv
      { s with
        outputReads := s.outputReads.eraseIdx index, sends := s.sends ++ [.null]
        activeStreams := s.activeStreams.erase stream
        sent := s.sent ++ [stream.eos] } := by
  have active := inv.mem_active up (token_pos_of_read taken)
  refine ⟨inv.ordered_snoc ?_, ?_, fun _ => (inv.nodup up).erase stream, ?_, ?_, ?_, ?_, ?_⟩
  · exact fun message mem => inv.follows_data up active .eos mem
  · exact fun _ other => inv.token_endStream up taken other
  · intro _ other mem ended
    obtain ⟨apart, mem⟩ := (inv.nodup up).mem_erase_iff.mp mem
    rcases mem_append.mp ended with old | new
    · exact inv.active up other mem old
    · have same : other.eos = stream.eos := mem_singleton.mp new
      rw [OutputStream.eos, OutputStream.eos] at same
      injection same with type
      exact apart (OutputStream.dataType_injective type)
  · intro connected other mem
    by_cases same : other = stream
    · exact .inr (mem_append_right _ (mem_singleton.mpr (by rw [same])))
    · rcases inv.opened connected other mem with active | ended
      · exact .inl ((inv.nodup up).mem_erase_iff.mpr ⟨same, active⟩)
      · exact .inr (mem_append_left _ ended)
  · intro early
    rw [(inv.early early).1] at active
    cases active
  · intro running message mem
    rcases mem_append.mp mem with old | new
    · exact inv.running running message old
    · rw [mem_singleton.mp new]
      rfl
  · intro message mem close
    rcases mem_append.mp mem with old | new
    · rw [inv.not_close up active old] at close
      cases close
    · rw [mem_singleton.mp new] at close
      cases close

/-- The streams of a new child start with one read each. -/
theorem of_opened (inv : s.OutputInv) (connecting : s.state = .connecting) :
    OutputInv
      { s with
        state := .connected, activeStreams := outputStreams s.stream
        outputReads := s.outputReads ++ outputStreams s.stream
        sends := s.sends ++ [.null], sent := s.sent ++ [.ack] } := by
  have up : s.state ≠ .disconnected := fun state => by cases connecting.symm.trans state
  have announced : OutputInv { s with sends := s.sends ++ [.null], sent := s.sent ++ [.ack] } :=
    inv.of_announce rfl rfl
  obtain ⟨inactive, silent⟩ := announced.early (.inr connecting)
  have running := announced.running (.inr (.inl connecting))
  refine ⟨announced.ordered, ?_, fun _ => nodup_outputStreams s.stream, ?_, ?_, ?_, ?_, ?_⟩
  · intro _ stream
    have idle := announced.token up stream
    rw [inactive, if_neg not_mem_nil, View.token] at idle
    show (s.outputReads ++ outputStreams s.stream).count stream +
      (s.sends ++ [Loop.null]).count stream.loop ≤ _
    rw [count_append, (nodup_outputStreams s.stream).count]
    simp only at idle ⊢
    omega
  · intro _ stream _ ended
    cases silent _ ended
  · exact fun _ stream mem => .inl mem
  · intro early
    rcases early with null | connecting
    · cases null
    · cases connecting
  · exact fun _ => running
  · intro message mem close
    have terminal := Message.terminal_of_isClose close
    rw [running message mem] at terminal
    cases terminal

end OutputInv

theorem outputInv_init : (Session.view {}).OutputInv where
  ordered := .nil
  token _ _ := Nat.zero_le _
  nodup _ := .nil
  active _ _ _ := not_mem_nil
  opened connected := by cases connected
  early _ := ⟨rfl, fun _ mem => absurd mem not_mem_nil⟩
  running _ _ mem := absurd mem not_mem_nil
  closed _ mem := absurd mem not_mem_nil

theorem isData_errorMessage (errorCode : ErrorCode) :
    (Session.errorMessage errorCode).isData = false ∧
      (Session.errorMessage errorCode).isClose = false := by
  rw [Session.errorMessage]
  split
  · exact ⟨rfl, rfl⟩
  · exact ⟨rfl, rfl⟩

/-- **Every effect keeps the order of the output.** -/
theorem OutputInv.kept {prims : ProofPrimitives} {heard : DataPayload → Prop} {s t : View}
    (effect : Effect prims heard s t)
    (inv : s.OutputInv) : t.OutputInv := by
  cases effect with
  | dropSend index =>
    refine inv.of_same rfl rfl rfl rfl fun stream => Nat.add_le_add_left ?_ _
    exact (eraseIdx_sublist _ _).count_le _
  | dropRead index =>
    refine inv.of_same rfl rfl rfl rfl fun stream => Nat.add_le_add_right ?_ _
    exact (eraseIdx_sublist _ _).count_le _
  | begin null =>
    obtain ⟨inactive, silent⟩ := inv.early (.inl null)
    have up : s.state ≠ .disconnected := fun state => by cases null.symm.trans state
    exact ⟨inv.ordered, fun _ => inv.token up, fun _ => inv.nodup up, fun _ => inv.active up,
      nofun, fun _ => ⟨inactive, silent⟩, fun _ => inv.running (.inl null),
      fun message mem close => ⟨fun _ => inactive, (inv.closed message mem close).2⟩⟩
  | close running | spoil activeStreams running => exact inv.of_disconnected rfl rfl rfl
  | announce running plain outside => exact inv.of_announce plain outside
  | report errorCode running =>
    obtain ⟨data, close⟩ := isData_errorMessage errorCode
    exact inv.of_terminal running data fun closes => by rw [close] at closes; cases closes
  | finish code connected drained =>
    exact inv.of_terminal (.inr connected) rfl fun _ => ⟨connected, drained⟩
  | prepare backend connecting =>
    refine ⟨inv.ordered, inv.token, inv.nodup, inv.active, ?_, inv.early, inv.running, ?_⟩
    · intro connected
      cases connecting.symm.trans connected
    · intro message mem close
      have terminal := Message.terminal_of_isClose close
      rw [inv.running (.inr (.inl connecting)) message mem] at terminal
      cases terminal
  | key payloadCrypto connecting =>
    exact inv.of_same rfl rfl rfl rfl fun stream => Nat.le_refl _
  | opened connecting => exact inv.of_opened connecting
  | resume taken => exact inv.of_same rfl rfl rfl rfl fun stream => (token_resume taken stream).le
  | output running taken encrypted =>
    refine inv.of_output running ?_ taken
    rintro rfl
    rw [Sealed.eq_def] at encrypted
    split at encrypted
    · obtain ⟨bytes, plain⟩ := encrypted
      cases plain
    · obtain ⟨_, _, _, _, plain, -⟩ := encrypted
      cases plain
  | endStream running taken => exact inv.of_endStream running taken
  | write connected decrypted | complete errorCode handler => exact inv.of_same rfl rfl rfl rfl fun stream => Nat.le_refl _

end View

namespace Session

variable {prims : ProofPrimitives} {settings : Settings}

theorem outputInv {s : Session} (reaches : Reaches (step prims settings) {} s) :
    s.view.OutputInv :=
  view_invariant reaches View.outputInv_init View.OutputInv.kept
    fun inv => inv.of_same rfl rfl rfl rfl fun _ => Nat.le_refl _

/-- **The order of the output.** In every run a session sends at most one terminal message. It
closes only after the end of every stream of its child, and sends no output after it. Each
stream ends at most once, and nothing of the stream follows its end. -/
theorem output_ordered {s : Session} (reaches : Reaches (step prims settings) {} s) :
    s.sent.countP Message.terminal ≤ 1 ∧
      (∀ before code after, s.sent = before ++ .close code :: after →
        (∀ stream ∈ outputStreams s.stream, stream.eos ∈ before) ∧
          ∀ message ∈ after, message.isData = false) ∧
      ∀ stream : OutputStream, s.sent.count stream.eos ≤ 1 ∧
        ∀ before after, s.sent = before ++ stream.eos :: after →
          ∀ message ∈ after, message.isDataOf stream = false := by
  have inv := outputInv reaches
  have ordered : s.sent.Pairwise Follows := inv.ordered
  refine ⟨?_, ?_, ?_⟩
  · exact countP_le_one_of_pairwise (ordered.imp fun follows => follows.terminal)
  · intro before code after split
    rw [split, pairwise_append, pairwise_cons] at ordered
    obtain ⟨-, ⟨later, -⟩, -⟩ := ordered
    have silent : ∀ message ∈ after, message.isData = false :=
      fun message mem => (later message mem).close rfl
    refine ⟨fun stream opened => ?_, silent⟩
    have mem : Message.close code ∈ s.sent := by
      rw [split]
      exact mem_append_right _ mem_cons_self
    have ended : stream.eos ∈ s.sent := (inv.closed _ mem rfl).2 stream opened
    rw [split, mem_append, mem_cons] at ended
    rcases ended with earlier | same | later
    · exact earlier
    · cases same
    · cases silent _ later
  · intro stream
    refine ⟨?_, fun before after split message mem => ?_⟩
    · apply countP_le_one_of_pairwise
      refine ordered.imp fun {earlier later} follows same => ?_
      have apart := follows.eos stream (beq_iff_eq.mp same)
      refine beq_eq_false_iff_ne.mpr fun isEos => ?_
      rw [isEos, OutputStream.eos, Message.isDataOf, decide_eq_false_iff_not] at apart
      exact apart rfl
    · rw [split, pairwise_append, pairwise_cons] at ordered
      exact (ordered.2.1.1 message mem).eos stream rfl

/-- A client opens a session with pipes, the child writes to its output and ends. -/
def closingRun : List (Event × World) :=
  [(.run, {}), (.received .none (some (.open_ { config := some { cmdArgs := [[115, 104]] } })), {}),
    (.outputRead 0 (.data [104, 105]), {}), (.sent 1 .none, {}),
    (.expireChildExit, {}), (.childExitTimer, { recoverExit := (true, .none), exitCode := 3 }),
    (.outputRead 1 .endOfStream, {}), (.outputRead 0 .endOfStream, {}), (.sent 1 .none, {})]

/-- The session at the end of the run. -/
def closedSession : Session :=
  (exec (step sampleProofPrims {}) {} closingRun).getD {}

/-- The child exits before its streams end: the session closes after both ends. -/
theorem closedSession_ordered :
    closedSession.sent = [.ack, .data .stdOut (.data [104, 105]), .data .stdOut .eos,
      .data .stdErr .eos, .close 3] ∧
      outputStreams closedSession.stream = [.stdOut, .stdErr] ∧
      closedSession.sent.countP Message.terminal ≤ 1 ∧
      OutputStream.stdErr.eos ∈ [.ack, .data .stdOut (.data [104, 105]), .data .stdOut .eos,
        .data .stdErr .eos] := by
  have executed : exec (step sampleProofPrims {}) {} closingRun = some closedSession := rfl
  have ordered := output_ordered
    (Run.of_exec (goodAlong_any _ _ _) executed)
  have sent : closedSession.sent = [.ack, .data .stdOut (.data [104, 105]), .data .stdOut .eos,
      .data .stdErr .eos] ++ .close 3 :: [] := rfl
  exact ⟨sent, rfl, ordered.1, (ordered.2.1 _ 3 [] sent).1 .stdErr (by decide)⟩

end Session

end Rstream.Webtty.Server
