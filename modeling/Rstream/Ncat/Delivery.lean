import Rstream.Ncat.Chunks

/-!
# The output of the child of an exec session

A byte the child wrote is in its pipe, in a write to the socket, or taken by the socket.
An output ends when its pipe is empty and the child has closed it, which is noticed by a
read, so no write of that output is in flight then. A session that closes because both
outputs have ended has therefore delivered all of them.

A write to the standard input of the child that fails closes the session as well. The
child may stop reading its input, or exit, while its output is still on the way; only an
end of file is taken for that, and a write to a pipe never fails with an end of file. What
is on the way then is lost.
-/

namespace Rstream.Ncat.SessionExec

open List
open Function (comp_def update update_of_ne update_self)
open Library
open IoRstrm

variable {s t : SessionExec} {event : Event}

/-- The bytes of an output the socket took. -/
def deliveredOf (stream : ChildStream) (s : SessionExec) : List UInt8 :=
  (s.received.filter (·.1 = stream)).map (·.2)

/-- The bytes of an output that are left of the writes to the socket. -/
def pendingOf (stream : ChildStream) (s : SessionExec) : List UInt8 :=
  (s.writesDownstream.filter (·.1 = stream)).flatMap (·.2)

/-- The downstream socket can be half closed, nobody cancels the session, the socket fails
in no other way than by an end of its input, the outputs of the child fail only by their
end, and a write to its input fails only because there is no reader or because the pipe
was closed. -/
def Benign (s : SessionExec) : Event → Prop
  | .cancel => False
  | .readDownstreamFailed errorCode =>
    s.state = .running → isEofError errorCode = true ∧ s.downstreamHalfClose = true
  | .writeDownstreamFailed _ _ => s.state ≠ .running
  | .readChildFailed _ errorCode => s.state = .running → isEofError errorCode = true
  | .writeChildFailed _ errorCode =>
    (errorCode = brokenPipe ∧ s.stdinReader = false) ∨
      (errorCode = .operationAborted ∧ s.stdinOpen = false)
  | _ => True

/-- No write to the input of the child fails while the session runs. -/
def InputTaken (s : SessionExec) (event : Event) : Prop :=
  ∀ write errorCode, event = .writeChildFailed write errorCode → s.state ≠ .running

theorem not_breaks (benign : Benign s event) (inputTaken : InputTaken s event)
    (running : s.state = .running) : ¬ Breaks s event := by
  intro broken
  cases event with
  | cancel => exact benign
  | readDownstreamFailed errorCode =>
    obtain ⟨isEof, half⟩ := benign running
    obtain other | full := broken
    · rw [isEof] at other
      cases other
    · rw [half] at full
      cases full
  | writeChildFailed write errorCode => exact inputTaken write errorCode rfl running
  | readChildFailed stream errorCode =>
    have other : isEofError errorCode = false := broken
    rw [benign running] at other
    cases other
  | writeDownstreamFailed write errorCode => exact benign running
  | asyncRun | childWrites | childCloses | childClosesStdin | childExits | onChildExit
  | readDownstream | writeChild | readChild | writeDownstreamSome | writeDownstream => exact broken

/-! ## Where the bytes are -/

/-- Every byte of an output is on its way or delivered; an output that has ended is not on
its way any more. -/
structure Delivering (s : SessionExec) : Prop where
  accounted : s.state ≠ .closed → ∀ stream,
    s.deliveredOf stream ++ (s.pendingOf stream ++ s.pipes stream) = s.wrote stream
  exhausted : s.state ≠ .closed → ∀ stream, s.eos stream = true →
    s.pipes stream = [] ∧ s.outputs stream = false ∧ s.readsChild stream = 0 ∧
      s.writesDownstream.countP (·.1 = stream) = 0
  fresh : s.state = .null → s.alive = false ∧
    ∀ stream, s.eos stream = false ∧ s.pipes stream = []
  delivered : s.state = .closed → s.alive = false ∧
    ∀ stream, s.deliveredOf stream = s.wrote stream

theorem pendingOf_eq_nil {stream : ChildStream}
    (none : s.writesDownstream.countP (·.1 = stream) = 0) : s.pendingOf stream = [] := by
  rw [countP_eq_length_filter, length_eq_zero_iff] at none
  rw [pendingOf, none]
  rfl

/-- An output that has ended, and of which no write is in flight, is delivered. -/
theorem Delivering.deliveredOf_eq (delivering : Delivering s) (unclosed : s.state ≠ .closed)
    {stream : ChildStream} (empty : s.pipes stream = [])
    (none : s.writesDownstream.countP (·.1 = stream) = 0) :
    s.deliveredOf stream = s.wrote stream := by
  have here := delivering.accounted unclosed stream
  rw [pendingOf_eq_nil none, empty, append_nil, append_nil] at here
  exact here

theorem pendingOf_append (stream other : ChildStream) (bytes : List UInt8) :
    ((s.writesDownstream ++ [(stream, bytes)]).filter (·.1 = other)).flatMap (·.2) =
      s.pendingOf other ++ if stream = other then bytes else [] := by
  rw [filter_append, flatMap_append, pendingOf]
  by_cases named : stream = other
  · rw [if_pos named, filter_cons_of_pos (by simpa using named), filter_nil,
      flatMap_singleton]
  · rw [if_neg named, filter_cons_of_neg (by simpa using named), filter_nil,
      flatMap_nil]

theorem deliveredOf_append (stream other : ChildStream) (bytes : List UInt8) :
    ((s.received ++ bytes.map fun byte => (stream, byte)).filter (·.1 = other)).map (·.2) =
      s.deliveredOf other ++ if stream = other then bytes else [] := by
  rw [filter_append, map_append, deliveredOf, filter_map]
  by_cases named : stream = other
  · simp [named, comp_def]
  · simp [named, comp_def]

theorem advances_eq {write : Nat} {stream : ChildStream} {left : List UInt8}
    (writing : s.writesDownstream[write]? = some (stream, left)) (size : Nat)
    (once : ∀ stream, s.writesDownstream.countP (·.1 = stream) ≤ 1) (other : ChildStream) :
    ((s.received ++ (left.take size).map fun byte => (stream, byte)).filter
        (·.1 = other)).map (·.2) ++
      ((s.writesDownstream.set write (stream, left.drop size)).filter
        (·.1 = other)).flatMap (·.2) = s.deliveredOf other ++ s.pendingOf other := by
  rw [deliveredOf_append, append_assoc]
  congr 1
  by_cases named : stream = other
  · subst named
    have before : s.writesDownstream.filter (·.1 = stream) = [(stream, left)] :=
      filter_eq_singleton_of_taken writing (once stream) (decide_eq_true rfl)
    obtain ⟨bound, -⟩ := List.getElem?_eq_some_iff.mp writing
    have after : (s.writesDownstream.set write (stream, left.drop size)).filter (·.1 = stream) =
        [(stream, left.drop size)] := by
      refine filter_eq_singleton_of_taken (getElem?_set_self bound) ?_
        (decide_eq_true rfl)
      exact le_of_eq_of_le (countP_set_of_taken writing rfl) (once stream)
    rw [if_pos rfl, after, pendingOf, before, flatMap_singleton, flatMap_singleton]
    exact take_append_drop size left
  · rw [if_neg named, nil_append, pendingOf,
      filter_set_of_taken writing (decide_eq_false named) (decide_eq_false named)]

theorem completes_eq {write : Nat} {stream : ChildStream}
    (writing : s.writesDownstream[write]? = some (stream, []))
    (once : s.writesDownstream.countP (·.1 = stream) ≤ 1) (other : ChildStream) :
    ((s.writesDownstream.eraseIdx write).filter (·.1 = other)).flatMap (·.2) =
      s.pendingOf other := by
  by_cases named : stream = other
  · subst named
    have before : s.writesDownstream.filter (·.1 = stream) = [(stream, [])] :=
      filter_eq_singleton_of_taken writing once (decide_eq_true rfl)
    have counted := countP_of_taken writing (·.1 = stream)
    rw [if_pos (decide_eq_true rfl)] at counted
    have after : (s.writesDownstream.eraseIdx write).countP (·.1 = stream) = 0 := by omega
    rw [countP_eq_length_filter, length_eq_zero_iff] at after
    rw [after, pendingOf, before]
    rfl
  · rw [filter_of_taken writing (decide_eq_false named), pendingOf]

theorem delivering_change (delivering : Delivering s) (disciplined : Disciplined s)
    (handled : Handled s) (unbroken : s.state = .running → ¬ Breaks s event)
    (change : Change s event t) : Delivering t := by
  obtain ⟨accounted, exhausted, fresh, delivered⟩ := delivering
  cases change with
  | still untouched =>
    obtain ⟨state, eos, readsChild, writes, pipes, wrote, -, received, alive, outputs⟩ := untouched
    have same : ∀ stream, t.deliveredOf stream = s.deliveredOf stream := by
      intro stream
      rw [deliveredOf, deliveredOf, received]
    refine ⟨fun unclosed stream => ?_, fun unclosed stream ended => ?_, fun null => ?_,
      fun closed => ?_⟩
    · rw [state] at unclosed
      rw [same, pendingOf, writes, pipes, wrote]
      exact accounted unclosed stream
    · rw [state] at unclosed
      rw [eos] at ended
      obtain ⟨empty, released, idle, none⟩ := exhausted unclosed stream ended
      rw [pipes, readsChild, writes]
      refine ⟨empty, Bool.eq_false_iff.mpr fun held => ?_, idle, none⟩
      rw [outputs stream held] at released
      cases released
    · rw [state] at null
      obtain ⟨dead, open_⟩ := fresh null
      refine ⟨Bool.eq_false_iff.mpr fun living => ?_, fun stream => ?_⟩
      · rw [alive living] at dead
        cases dead
      · rw [eos, pipes]
        exact open_ stream
    · rw [state] at closed
      obtain ⟨dead, all⟩ := delivered closed
      refine ⟨Bool.eq_false_iff.mpr fun living => ?_, fun stream => ?_⟩
      · rw [alive living] at dead
        cases dead
      · rw [same, wrote]
        exact all stream
  | launches null =>
    refine ⟨fun _ => accounted (by rw [null]; nofun), fun _ stream ended => ?_, nofun, nofun⟩
    have ended : s.eos stream = true := ended
    rw [((fresh null).2 stream).1] at ended
    cases ended
  | aborts null cause code =>
    have unclosed : s.state ≠ .closed := by
      rw [null]
      nofun
    refine ⟨fun unclosed => absurd rfl unclosed, fun unclosed => absurd rfl unclosed, nofun,
      fun _ => ⟨rfl, fun stream => ?_⟩⟩
    have none : s.writesDownstream.countP (·.1 = stream) = 0 := by
      rw [(disciplined.2.2 null).2.2.2]
      rfl
    exact Delivering.deliveredOf_eq ⟨accounted, exhausted, fresh, delivered⟩ unclosed
      ((fresh null).2 stream).2 none
  | @breaks _ u running broken wrote chunks received fewer cause code =>
    exact absurd broken (unbroken running)
  | @finishes _ u running ends wrote chunks received same cause code =>
    refine ⟨fun unclosed => absurd rfl unclosed, fun unclosed => absurd rfl unclosed, nofun,
      fun _ => ⟨rfl, fun stream => ?_⟩⟩
    show (u.received.filter _).map _ = u.wrote stream
    rw [received, wrote]
    have unclosed : s.state ≠ .closed := by
      rw [running]
      nofun
    obtain ended | ⟨empty, -, reading⟩ := ends stream
    · obtain ⟨empty, -, -, none⟩ := exhausted unclosed stream ended
      exact Delivering.deliveredOf_eq ⟨accounted, exhausted, fresh, delivered⟩ unclosed empty none
    · have once := disciplined.2.1 stream
      exact Delivering.deliveredOf_eq ⟨accounted, exhausted, fresh, delivered⟩ unclosed empty
        (by omega)
  | ends stream errorCode running reading empty closed =>
    refine ⟨accounted, fun unclosed other ended => ?_, fun null => ?_, fun closed => ?_⟩
    · have once := disciplined.2.1 stream
      by_cases named : other = stream
      · subst named
        have none : s.writesDownstream.countP (·.1 = other) = 0 := by omega
        refine ⟨empty, closed, ?_, none⟩
        show update s.readsChild other _ other = 0
        rw [update_self]
        omega
      · have ended : update s.eos stream true other = true := ended
        rw [update_of_ne named] at ended
        obtain ⟨empty, released, idle, none⟩ := exhausted unclosed other ended
        refine ⟨empty, released, ?_, none⟩
        show update s.readsChild stream _ other = 0
        rw [update_of_ne named]
        exact idle
    · rw [running] at null
      cases null
    · rw [running] at closed
      cases closed
  | writes stream bytes alive held =>
    refine ⟨fun unclosed other => ?_, fun unclosed other ended => ?_, fun null => ?_,
      fun closed => ?_⟩
    · show s.deliveredOf other ++ (s.pendingOf other ++
        update s.pipes stream (s.pipes stream ++ bytes) other) =
        update s.wrote stream (s.wrote stream ++ bytes) other
      have before := accounted unclosed other
      by_cases named : other = stream
      · subst named
        rw [update_self, update_self, ← before]
        simp only [append_assoc]
      · rw [update_of_ne named, update_of_ne named]
        exact before
    · obtain ⟨empty, released, idle, none⟩ := exhausted unclosed other ended
      refine ⟨?_, released, idle, none⟩
      show update s.pipes stream _ other = []
      have named : other ≠ stream := by
        rintro rfl
        rw [held] at released
        cases released
      rw [update_of_ne named]
      exact empty
    · rw [(fresh null).1] at alive
      cases alive
    · rw [(delivered closed).1] at alive
      cases alive
  | forwards stream size running reading =>
    have unclosed : s.state ≠ .closed := by
      rw [running]
      nofun
    refine ⟨fun _ other => ?_, fun _ other ended => ?_, fun null => ?_, fun closed => ?_⟩
    · show s.deliveredOf other ++ (((s.writesDownstream ++ [(stream, _)]).filter _).flatMap _ ++
        update s.pipes stream ((s.pipes stream).drop size) other) = s.wrote other
      have before := accounted unclosed other
      rw [pendingOf_append]
      by_cases named : other = stream
      · subst named
        rw [if_pos rfl, update_self, append_assoc, take_append_drop]
        exact before
      · rw [if_neg (Ne.symm named), update_of_ne named, append_nil]
        exact before
    · obtain ⟨empty, released, idle, none⟩ := exhausted unclosed other ended
      have named : other ≠ stream := by
        rintro rfl
        omega
      refine ⟨?_, released, ?_, ?_⟩
      · show update s.pipes stream _ other = []
        rw [update_of_ne named]
        exact empty
      · show update s.readsChild stream _ other = 0
        rw [update_of_ne named]
        exact idle
      · show (s.writesDownstream ++ [(stream, _)]).countP _ = 0
        rw [countP_append, none]
        simp [Ne.symm named]
    · rw [running] at null
      cases null
    · rw [running] at closed
      cases closed
  | advances write stream left size writing unclosed =>
    have once : ∀ stream, s.writesDownstream.countP (·.1 = stream) ≤ 1 := by
      intro other
      have here := disciplined.2.1 other
      omega
    refine ⟨fun _ other => ?_, fun _ other ended => ?_, fresh,
      fun closed => absurd closed unclosed⟩
    · show ((s.received ++ _).filter _).map _ ++
        (((s.writesDownstream.set write _).filter _).flatMap _ ++ s.pipes other) = s.wrote other
      rw [← append_assoc, advances_eq writing size once, append_assoc]
      exact accounted unclosed other
    · obtain ⟨empty, released, idle, none⟩ := exhausted unclosed other ended
      refine ⟨empty, released, idle, ?_⟩
      have same : (s.writesDownstream.set write (stream, left.drop size)).countP (·.1 = other) =
          s.writesDownstream.countP (·.1 = other) := countP_set_of_taken writing rfl
      exact same.trans none
  | completes write stream running writing =>
    have unclosed : s.state ≠ .closed := by
      rw [running]
      nofun
    refine ⟨fun _ other => ?_, fun _ other ended => ?_, fun null => ?_, fun closed => ?_⟩
    · show s.deliveredOf other ++
        (((s.writesDownstream.eraseIdx write).filter _).flatMap _ ++ s.pipes other) = s.wrote other
      have once := disciplined.2.1 stream
      rw [completes_eq writing (by omega)]
      exact accounted unclosed other
    · obtain ⟨empty, released, idle, none⟩ := exhausted unclosed other ended
      have counted := countP_of_taken writing (·.1 = other)
      have named : other ≠ stream := by
        rintro rfl
        rw [none, if_pos (decide_eq_true rfl)] at counted
        cases counted
      refine ⟨empty, released, ?_, ?_⟩
      · show update s.readsChild stream _ other = 0
        rw [update_of_ne named]
        exact idle
      · show (s.writesDownstream.eraseIdx write).countP _ = 0
        omega
    · rw [running] at null
      cases null
    · rw [running] at closed
      cases closed
  | ignores stopped state alive wrote chunks received fewer begun =>
    have closed := closed_of_begun disciplined handled stopped begun
    have after : t.state = .closed := state.trans closed
    obtain ⟨dead, all⟩ := delivered closed
    refine ⟨fun unclosed => absurd after unclosed, fun unclosed => absurd after unclosed,
      fun null => ?_, fun _ => ⟨alive.trans dead, fun stream => ?_⟩⟩
    · rw [after] at null
      cases null
    · rw [deliveredOf, received, wrote]
      exact all stream

/-! ## Runs -/

/-- In every run in which no write to the input of the child fails while the session runs,
a session that has closed has delivered all that the child wrote. -/
theorem deliveredOf_of_inputTaken (downstreamSize upstreamSize : Nat) (s : SessionExec)
    (run : Run step (fun s event => Benign s event ∧ InputTaken s event)
      (initial downstreamSize upstreamSize true) s) (closed : s.state = .closed) :
    ∀ stream, s.deliveredOf stream = s.wrote stream := by
  have kept : (Disciplined s ∧ Handled s) ∧ Delivering s := by
    refine run.invariant (p := fun s => (Disciplined s ∧ Handled s) ∧ Delivering s) ?_ ?_
    · exact ⟨⟨disciplined_initial _ _ _, handled_initial _ _ _⟩, fun _ _ => rfl, nofun,
        fun _ => ⟨rfl, fun _ => ⟨rfl, rfl⟩⟩, nofun⟩
    · rintro s event t ⟨⟨disciplined, handled⟩, delivering⟩ ⟨benign, inputTaken⟩ taken
      have change := change_of_step handled.2.2.2 taken
      exact ⟨⟨disciplined_step disciplined handled.2.2.2 taken, handled_step handled taken⟩,
        delivering_change delivering disciplined handled (not_breaks benign inputTaken) change⟩
  exact (kept.2.delivered closed).2

/-- The child reads its input, writes to both outputs and exits, and the peer closes its
side. -/
def untilBothEnd : List Event :=
  [.asyncRun .none, .readDownstream [7], .childWrites .stdOut [1, 2], .writeChild 0,
    .readChild .stdOut 1, .writeDownstreamSome 0 1, .writeDownstream 0, .readDownstreamFailed eof,
    .childWrites .stdErr [3], .childExits .none, .onChildExit, .readChild .stdErr 1,
    .readChild .stdOut 1, .writeDownstreamSome 1 1, .writeDownstreamSome 0 1, .writeDownstream 0,
    .readChildFailed .stdErr eof, .writeDownstream 0, .readChildFailed .stdOut eof]

theorem deliveredOf_untilBothEnd :
    ((exec step (initial 16 16 true) untilBothEnd).getD (initial 16 16 true)).state =
        .closed ∧
      ∀ stream, deliveredOf stream
          ((exec step (initial 16 16 true) untilBothEnd).getD (initial 16 16 true)) =
        ((exec step (initial 16 16 true) untilBothEnd).getD
          (initial 16 16 true)).wrote stream := by
  have closed : ((exec step (initial 16 16 true) untilBothEnd).getD
      (initial 16 16 true)).state = .closed := by decide
  refine ⟨closed, deliveredOf_of_inputTaken 16 16 _
    (Run.of_exec_getD untilBothEnd ?_ (by decide)) closed⟩
  refine ⟨⟨trivial, nofun⟩, ⟨trivial, nofun⟩, ⟨trivial, nofun⟩, ⟨trivial, nofun⟩,
    ⟨trivial, nofun⟩, ⟨trivial, nofun⟩, ⟨trivial, nofun⟩, ⟨fun _ => ⟨rfl, rfl⟩, nofun⟩,
    ⟨trivial, nofun⟩, ⟨trivial, nofun⟩, ⟨trivial, nofun⟩, ⟨trivial, nofun⟩, ⟨trivial, nofun⟩,
    ⟨trivial, nofun⟩, ⟨trivial, nofun⟩, ⟨trivial, nofun⟩, ⟨fun _ => rfl, nofun⟩,
    ⟨trivial, nofun⟩, ⟨fun _ => rfl, nofun⟩, trivial⟩

/-- The child writes to its output and closes its input, and the write of the session to
that input fails. -/
def inputClosed : List Event :=
  [.asyncRun .none, .readDownstream [7], .childWrites .stdOut [1, 2], .childClosesStdin,
    .writeChildFailed 0 brokenPipe]

/-- The session closes, and the peer has received nothing of what the child wrote. -/
theorem not_deliveredOf_inputClosed :
    Run step Benign (initial 16 16 true)
        ((exec step (initial 16 16 true) inputClosed).getD (initial 16 16 true)) ∧
      ((exec step (initial 16 16 true) inputClosed).getD (initial 16 16 true)).state =
        .closed ∧
      deliveredOf .stdOut
          ((exec step (initial 16 16 true) inputClosed).getD (initial 16 16 true)) = [] ∧
      ((exec step (initial 16 16 true) inputClosed).getD
        (initial 16 16 true)).wrote .stdOut = [1, 2] := by
  refine ⟨Run.of_exec_getD inputClosed ?_ (by decide), by decide, by decide, by decide⟩
  exact ⟨trivial, trivial, trivial, trivial, .inl ⟨rfl, rfl⟩, trivial⟩

end Rstream.Ncat.SessionExec
