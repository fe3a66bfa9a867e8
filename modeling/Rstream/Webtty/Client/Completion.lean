import Rstream.Webtty.Client.Moves
import Rstream.Webtty.Server.Execution

/-!
# The completion of a run

A run ends through one of many routes: the command exits, the caller cancels, once or
twice, an operation fails or takes too long. All of them close the connection, cancel the
queue and complete the run when the queue confirms it. Whatever the route, the run
completes at most once and with the return code of the server if there is one
(`run_completion`).

The output of the server is read and written by one chain of operations: a read of the
transport is followed by a write to the local output and this by the next read. So the
pieces are written in the order in which they were received, and after a write that fails
nothing is read.
-/

namespace Rstream.Webtty.Client

open List
open IoRstrm (ErrorCode)
open Library
open Server (DataPayload DataType Message ProofPrimitives)

/-- The bytes that a list of pieces has for a stream. -/
def bytesOf (stream : StdfdType) (pieces : List (StdfdType × Bytes)) : Bytes :=
  (pieces.filter fun piece => piece.1 = stream).flatMap Prod.snd

namespace Impl

/-- What the server has sent for the local output. -/
def contents (prims : ProofPrimitives) (settings : Settings) (s : Impl) :
    List (StdfdType × Bytes) :=
  s.received.filterMap (content prims settings)

/-- The last piece was not written to its end, and nothing was written since. -/
def CutShort (prims : ProofPrimitives) (settings : Settings) (s : Impl) : Prop :=
  s.drive = 0 ∧ s.state ≠ .null ∧ ∃ earlier stream bytes piece,
    s.written = earlier ++ [(stream, piece)] ∧ piece <+: bytes ∧
      s.contents prims settings = earlier ++ [(stream, bytes)]

/-- What was written and what is being written is what was received. -/
def Delivered (prims : ProofPrimitives) (settings : Settings) (s : Impl) : Prop :=
  s.written ++ s.writes = s.contents prims settings ∨ s.CutShort prims settings

/-- The run completes once the queue is cancelled, with the cause and the code of the close. -/
def Settled (s : Impl) : Prop :=
  (s.queueCancels ≠ 0 → s.state = .disconnected) ∧
  (s.handler = true → s.completions = []) ∧
  (s.completions = [] ∨ s.completions = [(s.closeCause, s.closeCode)] ∧
    s.state = .disconnected ∧ s.resourcesClosed = true ∧ s.barriers ≠ 0)

/-- A closed connection has the return code of the server, or an error and no code. -/
def Reported (s : Impl) : Prop :=
  s.closes = s.remoteReturnCode.toList ∧
  (s.state = .disconnected → s.closeCode = s.remoteReturnCode.getD (-1) ∧
    (s.remoteReturnCode = none → s.closeCause.failed = true))

end Impl

section

variable {prims : ProofPrimitives} {settings : Settings} {gate : Gate}

/-! ## Messages in flight -/

variable {s t : Impl}

theorem Impl.counted_asyncSend (message : Message) (handler : SendHandler)
    (inv : s.pendingMessages = s.sends.length) :
    (s.asyncSend message handler).pendingMessages = (s.asyncSend message handler).sends.length := by
  rw [Impl.asyncSend, length_append]
  exact congrArg (· + 1) inv

theorem Move.counted (move : Move prims settings gate s t)
    (inv : s.pendingMessages = s.sends.length) : t.pendingMessages = t.sends.length := by
  cases move with
  | answer hello value world reads =>
    exact Impl.counted_asyncSend (s := { s with serverHello := some hello, reads }) _ _ inv
  | open_ value world connects handshakes reads =>
    exact Impl.counted_asyncSend (s := { s with connects, handshakes, reads }) _ _ inv
  | announce handler up plain | type loop connected typed => exact Impl.counted_asyncSend _ _ inv
  | dropSend taken =>
    obtain ⟨bound, -⟩ := List.getElem?_eq_some_iff.mp taken
    show s.pendingMessages - 1 = (s.sends.eraseIdx _).length
    rw [length_eraseIdx_of_lt bound, inv]
  | barrier cancelled =>
    obtain ⟨handler, completions, same⟩ := onQueueCancelled_frame
      { s with queueCancels := s.queueCancels - 1 }
    rw [same]
    exact inv
  | _ => exact inv

/-! ## Local output -/

/-- One more message is received. -/
theorem filterMap_content_append (received : List (DataType × DataPayload))
    (entry : DataType × DataPayload) :
    (received ++ [entry]).filterMap (content prims settings) =
      received.filterMap (content prims settings) ++ (content prims settings entry).toList := by
  rw [filterMap_append]
  cases same : content prims settings entry with
  | none => rw [filterMap_cons_none same]; rfl
  | some write => rw [filterMap_cons_some same]; rfl

theorem Impl.Driven.writes_eq (driven : s.Driven) {index : Nat} {write : StdfdType × Bytes}
    (taken : s.writes[index]? = some write) :
    s.writes = [write] ∧ s.writes.eraseIdx index = [] ∧ s.reads = 0 ∧ s.resolves = 0 ∧
      s.connects = 0 ∧ s.handshakes = 0 := by
  have single := driven.1
  rw [Impl.drive] at single
  rcases writes : s.writes with _ | ⟨only, _ | ⟨second, rest⟩⟩
  · rw [writes] at taken
    cases taken
  · rw [writes] at taken single
    cases index with
    | zero =>
      cases taken
      refine ⟨rfl, rfl, ?_⟩
      rw [length_singleton] at single
      omega
    | succ index => cases taken
  · rw [writes, length_cons, length_cons] at single
    omega

theorem Impl.CutShort.of_idle (short : s.CutShort prims settings) (idle : t.drive ≤ s.drive)
    (begun : t.state = .null → s.state = .null) (written : t.written = s.written)
    (contents : t.contents prims settings = s.contents prims settings) :
    t.CutShort prims settings := by
  obtain ⟨none, running, pieces⟩ := short
  refine ⟨Nat.eq_zero_of_le_zero (none ▸ idle), fun null => running (begun null), ?_⟩
  rw [written, contents]
  exact pieces

theorem Move.delivered (move : Move prims settings gate s t) (driven : s.Driven)
    (inv : s.Delivered prims settings) : t.Delivered prims settings := by
  cases move with
  | begin null =>
    rcases inv with exact_ | short
    · exact .inl exact_
    · exact absurd null short.2.1
  | hop resolves connects handshakes reads forward bounded =>
    refine inv.imp id fun short => short.of_idle ?_ id rfl rfl
    exact Nat.add_le_add_right bounded _
  | answer hello value world reads bounded reading connecting passes expected accepted made =>
    refine inv.imp id fun short => short.of_idle ?_ id rfl rfl
    exact Nat.add_le_add_right (Nat.add_le_add_left bounded _) _
  | open_ value world connects handshakes reads spent bounded connecting answers made =>
    refine inv.imp id fun short => short.of_idle ?_ id rfl rfl
    simp only [Impl.drive, Impl.asyncSend]
    omega
  | connect capabilities connecting passes | leave errorCode raised connected
  | close errorCode code up why =>
    exact inv.imp id fun short => short.of_idle (Nat.le_refl _) (by rintro ⟨⟩) rfl rfl
  | exit state code reads moved reading running remote =>
    refine inv.imp id fun short => short.of_idle ?_ (fun null => ?_) rfl rfl
    · simp only [Impl.drive]
      omega
    · cases moved.symm.trans null
  | exitAgain code reads reading remote =>
    refine inv.imp id fun short => short.of_idle ?_ id rfl rfl
    simp only [Impl.drive]
    omega
  | deliver reads running passes bounded =>
    rename_i type payload
    rcases inv with exact_ | short
    · refine .inl ?_
      show s.written ++ (s.writes ++ _) = filterMap _ (s.received ++ _)
      rw [← append_assoc, exact_, filterMap_content_append, Impl.contents]
    · -- Nothing can be read any more, so the message has no content.
      have idle := short.1
      simp only [Impl.drive] at idle
      have empty : (content prims settings (type, payload)).toList = [] := by
        refine eq_nil_of_length_eq_zero ?_
        omega
      refine .inr (short.of_idle ?_ id rfl ?_)
      · simp only [Impl.drive, empty, append_nil]
        omega
      · show filterMap _ (s.received ++ _) = filterMap _ s.received
        rw [filterMap_content_append, empty, append_nil]
  | wrote count reads taken spent =>
    rename_i index stream bytes
    obtain ⟨only, none, read, resolved, connected, shaken⟩ := driven.writes_eq taken
    have exact_ : s.written ++ [(stream, bytes)] = s.contents prims settings := by
      rcases inv with exact_ | short
      · rw [only] at exact_
        exact exact_
      · have idle := short.1
        rw [Impl.drive, only, length_singleton] at idle
        omega
    rcases spent with same | ⟨-, rfl⟩
    · have running : s.state ≠ .null := by
        intro null
        have idle := (driven.2.1 null).1
        rw [Impl.drive, only, length_singleton] at idle
        omega
      refine .inr ⟨?_, running, s.written, stream, bytes, _, rfl, take_prefix _ _, exact_.symm⟩
      simp only [Impl.drive, none, length_nil]
      omega
    · refine .inl ?_
      show s.written ++ [(stream, bytes.take bytes.length)] ++ s.writes.eraseIdx index = _
      rw [none, append_nil, take_length]
      exact exact_
  | barrier cancelled =>
    obtain ⟨handler, completions, same⟩ := onQueueCancelled_frame
      { s with queueCancels := s.queueCancels - 1 }
    rw [same]
    exact inv
  | _ => exact inv

/-! ## The end -/

theorem Move.reported (move : Move prims settings gate s t) (driven : s.Driven) (inv : s.Reported) :
    t.Reported := by
  cases move with
  | begin null | connect capabilities connecting passes | leave errorCode raised connected => exact ⟨inv.1, by rintro ⟨⟩⟩
  | exit state code reads moved reading running remote =>
    refine ⟨?_, fun closed => ?_⟩
    · show s.closes ++ [code] = [code]
      rw [inv.1, remote]
      rfl
    · cases moved.symm.trans closed
  | exitAgain code reads reading remote =>
    -- After the return code nothing is read.
    have idle := driven.2.2 remote
    rw [Impl.drive] at idle
    omega
  | close errorCode code up why =>
    refine ⟨inv.1, fun _ => ?_⟩
    show s.remoteReturnCode.getD (if (s.causeOf errorCode).failed then -1 else code) = _ ∧
      (s.remoteReturnCode = none → (s.causeOf errorCode).failed = true)
    cases remote : s.remoteReturnCode with
    | some returned => exact ⟨rfl, by rintro ⟨⟩⟩
    | none =>
      rw [remote] at why
      have raised : (s.causeOf errorCode).failed = true := by
        rw [Impl.causeOf]
        split
        · rename_i both
          exact both.2
        · exact why.resolve_right (by rintro ⟨⟩)
      refine ⟨?_, fun _ => raised⟩
      rw [Option.getD_none, if_pos raised]
      rfl
  | barrier cancelled =>
    obtain ⟨handler, completions, same⟩ := onQueueCancelled_frame
      { s with queueCancels := s.queueCancels - 1 }
    rw [same]
    exact inv
  | _ => exact inv

/-- A connection that is not closed has completed nothing. -/
theorem Impl.Settled.open_ (inv : s.Settled) (before : s.state ≠ .disconnected)
    (cancels : t.queueCancels = s.queueCancels) (same : t.completions = s.completions) :
    t.Settled := by
  have none : s.completions = [] := by
    rcases inv.2.2 with none | ⟨-, closed, -⟩
    · exact none
    · exact absurd closed before
  refine ⟨fun some => ?_, fun _ => same.trans none, .inl (same.trans none)⟩
  rw [cancels] at some
  exact absurd (inv.1 some) before

theorem Impl.ne_disconnected {state : State} (here : s.state = state)
    (other : state ≠ .disconnected) : s.state ≠ .disconnected := by
  rw [here]
  exact other

theorem Move.settled (move : Move prims settings gate s t) (inv : s.Settled) : t.Settled := by
  cases move with
  | begin null => exact inv.open_ (Impl.ne_disconnected null (by rintro ⟨⟩)) rfl rfl
  | connect capabilities connecting passes =>
    exact inv.open_ (Impl.ne_disconnected connecting (by rintro ⟨⟩)) rfl rfl
  | leave errorCode raised connected =>
    exact inv.open_ (Impl.ne_disconnected connected (by rintro ⟨⟩)) rfl rfl
  | exit state code reads moved reading running remote => exact inv.open_ running.up.2 rfl rfl
  | close errorCode code up why => exact inv.open_ up.2 rfl rfl
  | cancelQueue closed => exact ⟨fun _ => closed, inv.2⟩
  | barrier cancelled =>
    have closed := inv.1 cancelled
    rw [Impl.onQueueCancelled]
    simp only
    split
    · rename_i waiting
      have none := inv.2.1 waiting
      refine ⟨fun _ => closed, by rintro ⟨⟩, .inr ⟨?_, closed, rfl, Nat.succ_ne_zero _⟩⟩
      show s.completions ++ _ = _
      rw [none]
      rfl
    · rename_i idle
      refine ⟨fun _ => closed, fun waiting => absurd waiting idle, ?_⟩
      refine inv.2.2.imp id fun kept => ⟨kept.1, kept.2.1, rfl, Nat.succ_ne_zero _⟩
  | _ => exact inv

/-! ## The run -/

theorem bytesOf_append (stream : StdfdType) (first second : List (StdfdType × Bytes)) :
    bytesOf stream (first ++ second) = bytesOf stream first ++ bytesOf stream second := by
  rw [bytesOf, filter_append, flatMap_append, bytesOf, bytesOf]

theorem bytesOf_piece (stream other : StdfdType) {piece bytes : Bytes}
    (isPrefix : piece <+: bytes) :
    bytesOf stream [(other, piece)] <+: bytesOf stream [(other, bytes)] := by
  by_cases same : other = stream
  · simp only [bytesOf, same, filter_cons, filter_nil, decide_true, if_true,
      flatMap_cons, flatMap_nil, append_nil]
    exact isPrefix
  · simp only [bytesOf, same, filter_cons, filter_nil, decide_false]
    exact prefix_refl _

theorem Impl.Delivered.bytesOf_written (inv : s.Delivered prims settings) (stream : StdfdType) :
    bytesOf stream s.written <+: bytesOf stream (s.contents prims settings) := by
  rcases inv with exact_ | ⟨-, -, earlier, other, bytes, piece, written, isPrefix, received⟩
  · rw [← exact_, bytesOf_append]
    exact prefix_append _ _
  · rw [written, received, bytesOf_append, bytesOf_append]
    exact (prefix_append_right_inj _).mpr (bytesOf_piece stream other isPrefix)

/-- In every run: the handler is invoked at most once, after the queue has confirmed that it is
cancelled and with the resources closed; the pending messages are those in flight; at most one
read or write is, and what was written to a stream is the beginning of what was received for it, to
the end unless a write failed; and the handler is given the return code of the only `Close`, or an
error and -1 if there was none. -/
theorem Impl.run_completion (prims : ProofPrimitives) (settings : Settings) {s : Impl}
    (reaches : Reaches (Impl.step prims settings) {} s) :
    (s.completions.length ≤ 1 ∧
      (s.completions ≠ [] → s.barriers ≠ 0 ∧ s.resourcesClosed = true)) ∧
    s.pendingMessages = s.sends.length ∧
    s.reads + s.writes.length ≤ 1 ∧
    (s.Delivered prims settings ∧
      ∀ stream, bytesOf stream s.written <+: bytesOf stream (s.contents prims settings)) ∧
    ∀ errorCode code, (errorCode, code) ∈ s.completions →
      s.closes = [code] ∨ s.closes = [] ∧ errorCode.failed = true ∧ code = -1 := by
  have run := run_of_reaches reaches
  have counted := move_invariant (p := fun s => s.pendingMessages = s.sends.length) run rfl
    Move.counted
  have driven : s.Driven ∧ s.Delivered prims settings ∧ s.Reported := by
    refine move_invariant (p := fun s => s.Driven ∧ s.Delivered prims settings ∧ s.Reported) run
      ⟨driven_init, .inl rfl, rfl, nofun⟩ ?_
    intro s t move inv
    exact ⟨move.driven inv.1, move.delivered inv.1 inv.2.1, move.reported inv.1 inv.2.2⟩
  have settled : s.Settled :=
    move_invariant run ⟨fun some => absurd rfl some, nofun, .inl rfl⟩ Move.settled
  obtain ⟨driven, delivered, closes, reported⟩ := driven
  refine ⟨⟨?_, fun some => ?_⟩, counted, ?_, ⟨delivered, delivered.bytesOf_written⟩, ?_⟩
  · rcases settled.2.2 with none | ⟨only, -⟩
    · rw [none]
      exact Nat.zero_le 1
    · rw [only]
      exact Nat.le_refl 1
  · obtain ⟨-, -, closed, confirmed⟩ := settled.2.2.resolve_left some
    exact ⟨confirmed, closed⟩
  · have single := driven.1
    rw [drive] at single
    omega
  · intro errorCode code mem
    rcases settled.2.2 with none | ⟨only, closed, -⟩
    · rw [none] at mem
      cases mem
    · rw [only] at mem
      cases mem_singleton.mp mem
      obtain ⟨same, failed⟩ := reported closed
      rw [closes, same]
      cases remote : s.remoteReturnCode with
      | none => exact .inr ⟨rfl, failed remote, rfl⟩
      | some returned => exact .inl rfl

/-- The server prints a line and exits with 7. -/
def exitedRun : List (Event × World) :=
  [(.run, {}), (.resolved .none, {}), (.connected .none, {}),
    (.sent 0 .none, {}), (.received .none (some (.ack [])), {}),
    (.received .none (some (.data .stdOut (.data [104, 105]))), {}), (.written 0 2 .none, {}),
    (.received .none (some (.close 7)), {}), (.queueCancelled, {})]

/-- The client at the end of the run. -/
def exitedClient : Impl :=
  (exec (Impl.step Server.sampleProofPrims {}) {} exitedRun).getD {}

/-- The line is written, and the handler is given the return code. -/
theorem exitedClient_completes :
    exitedClient.completions = [(.none, 7)] ∧ exitedClient.barriers ≠ 0 ∧
      bytesOf .stdOut exitedClient.written = [104, 105] ∧
      bytesOf .stdOut exitedClient.written <+:
        bytesOf .stdOut (exitedClient.contents Server.sampleProofPrims {}) ∧
      exitedClient.closes = [7] := by
  have reaches : Reaches (Impl.step Server.sampleProofPrims {}) {} exitedClient :=
    .of_exec_getD exitedRun (by decide)
  have completed : exitedClient.completions = [(.none, 7)] := by decide
  obtain ⟨⟨-, closed⟩, -, -, ⟨-, delivered⟩, reported⟩ :=
    Impl.run_completion Server.sampleProofPrims {} reaches
  refine ⟨completed, ?_, by decide, delivered .stdOut, ?_⟩
  · rw [completed] at closed
    exact (closed nofun).1
  · rw [completed] at reported
    exact (reported .none 7 (mem_singleton.mpr rfl)).resolve_right fun none => nomatch none.2.1

end

end Rstream.Webtty.Client
