import Rstream.Ncat.Discipline

/-!
# The bytes the peer of an exec session receives

Each output is cut into chunks by the reads, and a chunk is written to the socket by one
composed write. While there is one write at a time, the bytes the socket has taken and
the bytes left of the write are the chunks one after another. A chunk that arrives during
the write of the other output starts a second write, and from then on pieces of both
chunks follow each other in any order.
-/

namespace Rstream.Ncat.SessionExec

open List
open Function (update update_of_ne update_self)
open Library
open IoRstrm

variable {s t : SessionExec} {event : Event}

/-- The bytes of the chunks of an output. -/
def chunksOf (stream : ChildStream) (s : SessionExec) : List UInt8 :=
  (s.chunks.filter (·.1 = stream)).flatMap (·.2)

/-- The chunks of an output are a beginning of what the child wrote, and what is missing
is in the pipe. -/
def InOrder (s : SessionExec) : Prop :=
  (∀ stream, s.chunksOf stream <+: s.wrote stream) ∧
    (s.state ≠ .closed → ∀ stream, s.chunksOf stream ++ s.pipes stream = s.wrote stream)

/-- The socket has taken the chunks one after another, up to the rest of one write. -/
def Orderly (s : SessionExec) : Prop :=
  s.writesDownstream.length ≤ 1 ∧ s.received.map (·.2) <+: s.chunks.flatMap (·.2) ∧
    (s.state ≠ .closed →
      s.received.map (·.2) ++ s.writesDownstream.flatMap (·.2) = s.chunks.flatMap (·.2))

/-- No chunk of an output arrives during a write to the socket. -/
def Exclusive (s : SessionExec) (event : Event) : Prop :=
  ∀ stream size, event = .readChild stream size → s.writesDownstream = []

/-- A session that has operations in flight and does not run is closed. -/
theorem closed_of_begun (disciplined : Disciplined s) (handled : Handled s)
    (stopped : s.state ≠ .running)
    (begun : 0 < s.writesDownstream.length ∨ ∃ stream, 0 < s.readsChild stream) :
    s.state = .closed := by
  cases state : s.state with
  | null =>
    obtain ⟨-, -, noReads, noWrites⟩ := disciplined.2.2 state
    obtain writing | ⟨stream, reading⟩ := begun
    · rw [noWrites] at writing
      cases writing
    · rw [noReads stream] at reading
      cases reading
  | running => exact absurd state stopped
  | closing => exact absurd state handled.2.2.2
  | closed => rfl

theorem chunksOf_append (stream other : ChildStream) (bytes : List UInt8) :
    ((s.chunks ++ [(stream, bytes)]).filter (·.1 = other)).flatMap (·.2) =
      s.chunksOf other ++ if stream = other then bytes else [] := by
  rw [filter_append, flatMap_append, chunksOf]
  by_cases named : stream = other
  · rw [if_pos named, filter_cons_of_pos (by simpa using named), filter_nil,
      flatMap_singleton]
  · rw [if_neg named, filter_cons_of_neg (by simpa using named), filter_nil,
      flatMap_nil]

theorem inOrder_change (inOrder : InOrder s) (disciplined : Disciplined s) (handled : Handled s)
    (change : Change s event t) : InOrder t := by
  cases change with
  | still untouched =>
    have chunks : ∀ stream, t.chunksOf stream = s.chunksOf stream := by
      intro stream
      rw [chunksOf, chunksOf, untouched.chunks]
    refine ⟨fun stream => ?_, fun unclosed stream => ?_⟩
    · rw [chunks, untouched.wrote]
      exact inOrder.1 stream
    · rw [chunks, untouched.wrote, untouched.pipes]
      rw [untouched.state] at unclosed
      exact inOrder.2 unclosed stream
  | launches fresh => exact ⟨inOrder.1, fun _ => inOrder.2 (by rw [fresh]; nofun)⟩
  | aborts fresh cause code => exact ⟨inOrder.1, fun unclosed => absurd rfl unclosed⟩
  | @breaks _ u running broken wrote chunks received fewer cause code =>
    refine ⟨fun stream => ?_, fun unclosed => absurd rfl unclosed⟩
    show (u.chunks.filter _).flatMap _ <+: u.wrote stream
    rw [chunks, wrote]
    exact inOrder.1 stream
  | @finishes _ u running ends wrote chunks received same cause code =>
    refine ⟨fun stream => ?_, fun unclosed => absurd rfl unclosed⟩
    show (u.chunks.filter _).flatMap _ <+: u.wrote stream
    rw [chunks, wrote]
    exact inOrder.1 stream
  | ends stream errorCode running reading empty closed
  | advances write stream left size writing unclosed | completes write stream running writing => exact inOrder
  | writes stream bytes alive held =>
    refine ⟨fun other => ?_, fun unclosed other => ?_⟩
    · show s.chunksOf other <+: update s.wrote stream (s.wrote stream ++ bytes) other
      by_cases named : other = stream
      · subst named
        rw [update_self]
        exact (inOrder.1 other).trans (prefix_append _ _)
      · rw [update_of_ne named]
        exact inOrder.1 other
    · show s.chunksOf other ++ update s.pipes stream (s.pipes stream ++ bytes) other =
        update s.wrote stream (s.wrote stream ++ bytes) other
      have before := inOrder.2 unclosed other
      by_cases named : other = stream
      · subst named
        rw [update_self, update_self, ← append_assoc, before]
      · rw [update_of_ne named, update_of_ne named]
        exact before
  | forwards stream size running reading =>
    have equal : ∀ other, ((s.chunks ++ [(stream, (s.pipes stream).take size)]).filter
        (·.1 = other)).flatMap (·.2) ++
        update s.pipes stream ((s.pipes stream).drop size) other = s.wrote other := by
      intro other
      have before := inOrder.2 (by rw [running]; nofun) other
      rw [chunksOf_append]
      by_cases named : other = stream
      · subst named
        rw [if_pos rfl, update_self, append_assoc, take_append_drop]
        exact before
      · rw [if_neg (fun same => named same.symm), update_of_ne named, append_nil]
        exact before
    exact ⟨fun other => ⟨_, equal other⟩, fun _ => equal⟩
  | ignores stopped state alive wrote chunks received fewer begun =>
    have closed := closed_of_begun disciplined handled stopped begun
    refine ⟨fun stream => ?_, fun unclosed => absurd (state.trans closed) unclosed⟩
    rw [chunksOf, chunks, wrote]
    exact inOrder.1 stream

theorem orderly_change (orderly : Orderly s) (disciplined : Disciplined s) (handled : Handled s)
    (exclusive : Exclusive s event) (change : Change s event t) : Orderly t := by
  obtain ⟨single, taken, exact_⟩ := orderly
  cases change with
  | still untouched =>
    refine ⟨?_, ?_, fun unclosed => ?_⟩
    · rw [untouched.writesDownstream]
      exact single
    · rw [untouched.received, untouched.chunks]
      exact taken
    · rw [untouched.received, untouched.writesDownstream, untouched.chunks]
      rw [untouched.state] at unclosed
      exact exact_ unclosed
  | launches fresh => exact ⟨single, taken, fun _ => exact_ (by rw [fresh]; nofun)⟩
  | aborts fresh cause code => exact ⟨single, taken, fun unclosed => absurd rfl unclosed⟩
  | @breaks _ u running broken wrote chunks received fewer cause code =>
    refine ⟨Nat.le_trans fewer single, ?_, fun unclosed => absurd rfl unclosed⟩
    show u.received.map _ <+: u.chunks.flatMap _
    rw [received, chunks]
    exact taken
  | @finishes _ u running ends wrote chunks received same cause code =>
    refine ⟨?_, ?_, fun unclosed => absurd rfl unclosed⟩
    · show u.writesDownstream.length ≤ 1
      rw [same]
      exact single
    · show u.received.map _ <+: u.chunks.flatMap _
      rw [received, chunks]
      exact taken
  | ends stream errorCode running reading empty closed | writes stream bytes alive held => exact ⟨single, taken, exact_⟩
  | forwards stream size running reading =>
    have none := exclusive stream size rfl
    have before := exact_ (by rw [running]; nofun)
    rw [none, flatMap_nil, append_nil] at before
    have after : s.received.map (·.2) ++ (s.writesDownstream ++
        [(stream, (s.pipes stream).take size)]).flatMap (·.2) =
        (s.chunks ++ [(stream, (s.pipes stream).take size)]).flatMap (·.2) := by
      rw [none, nil_append, flatMap_append, before]
    refine ⟨?_, ⟨_, after⟩, fun _ => after⟩
    show (s.writesDownstream ++ [_]).length ≤ 1
    rw [none]
    exact Nat.le_refl 1
  | advances write stream left size writing unclosed =>
    obtain ⟨one, rfl⟩ := eq_singleton_of_taken single writing
    have before := exact_ unclosed
    rw [one, flatMap_singleton] at before
    have after : (s.received ++ (left.take size).map fun byte => (stream, byte)).map (·.2) ++
        (s.writesDownstream.set 0 (stream, left.drop size)).flatMap (·.2) =
        s.chunks.flatMap (·.2) := by
      rw [one, set_cons_zero, flatMap_singleton, map_append, map_map,
        append_assoc]
      show s.received.map _ ++ ((left.take size).map id ++ left.drop size) = _
      rw [map_id, take_append_drop]
      exact before
    refine ⟨?_, ⟨_, after⟩, fun _ => after⟩
    show (s.writesDownstream.set 0 _).length ≤ 1
    rw [length_set]
    exact single
  | completes write stream running writing =>
    obtain ⟨one, rfl⟩ := eq_singleton_of_taken single writing
    have before := exact_ (by rw [running]; nofun)
    refine ⟨?_, taken, fun _ => ?_⟩
    · show (s.writesDownstream.eraseIdx 0).length ≤ 1
      rw [one]
      exact Nat.zero_le 1
    · show s.received.map _ ++ (s.writesDownstream.eraseIdx 0).flatMap _ = s.chunks.flatMap _
      rw [one] at before ⊢
      exact before
  | ignores stopped state alive wrote chunks received fewer begun =>
    have closed := closed_of_begun disciplined handled stopped begun
    refine ⟨Nat.le_trans fewer single, ?_, fun unclosed => absurd (state.trans closed) unclosed⟩
    rw [received, chunks]
    exact taken

/-! ## Runs -/

/-- A session before its run. -/
def initial (readDownstreamBufferSizeBytes readUpstreamBufferSizeBytes : Nat)
    (downstreamHalfClose : Bool) : SessionExec :=
  { readDownstreamBufferSizeBytes, readUpstreamBufferSizeBytes, downstreamHalfClose }

theorem handled_initial (downstreamSize upstreamSize : Nat) (halfClose : Bool) :
    Handled (initial downstreamSize upstreamSize halfClose) :=
  ⟨fun _ => ⟨rfl, rfl⟩, nofun, nofun, nofun⟩

theorem disciplined_initial (downstreamSize upstreamSize : Nat) (halfClose : Bool) :
    Disciplined (initial downstreamSize upstreamSize halfClose) :=
  ⟨Nat.zero_le 1, fun _ => Nat.zero_le 1, fun _ => ⟨rfl, rfl, fun _ => rfl, rfl⟩⟩

/-- What the operations of a session are meant to respect: one read and one write at a time
on the socket and on every pipe, the chunks one after another and in the order of their
stream, no buffer filled while it is written from, and one invocation of the run handler. -/
def WellRun (s : SessionExec) : Prop :=
  (s.readsDownstream ≤ 1 ∧ s.writesDownstream.length ≤ 1 ∧ s.writesChild.length ≤ 1 ∧
      ∀ stream, s.readsChild stream ≤ 1) ∧
    (s.received.map (·.2) <+: s.chunks.flatMap (·.2) ∧ (s.state ≠ .closed →
      s.received.map (·.2) ++ s.writesDownstream.flatMap (·.2) = s.chunks.flatMap (·.2)) ∧
      ∀ stream, s.chunksOf stream <+: s.wrote stream) ∧
    ((0 < s.readsDownstream → s.writesChild = []) ∧
      ∀ stream, 0 < s.readsChild stream → ∀ write ∈ s.writesDownstream, write.1 ≠ stream) ∧
    (s.completions.length ≤ 1 ∧ (s.state = .closed → s.completions.length = 1))

theorem wellRun_of (disciplined : Disciplined s) (handled : Handled s) (inOrder : InOrder s)
    (orderly : Orderly s) : WellRun s := by
  obtain ⟨input, outputs, -⟩ := disciplined
  refine ⟨⟨by omega, orderly.1, by omega, fun stream => ?_⟩,
    ⟨orderly.2.1, orderly.2.2, inOrder.1⟩, ⟨fun reading => ?_, fun stream reading => ?_⟩, ?_,
    handled.2.2.1⟩
  · have once := outputs stream
    omega
  · exact length_eq_zero_iff.mp (by omega)
  · intro write mem named
    have once := outputs stream
    have counted : 0 < s.writesDownstream.countP (·.1 = stream) :=
      countP_pos_iff.mpr ⟨write, mem, decide_eq_true named⟩
    omega
  · cases state : s.state with
    | null =>
      rw [(handled.1 state).2]
      exact Nat.zero_le 1
    | running =>
      rw [(handled.2.1 state).2]
      exact Nat.zero_le 1
    | closing => exact absurd state handled.2.2.2
    | closed => exact Nat.le_of_eq (handled.2.2.1 state)

/-- In every run in which no chunk arrives during a write to the socket, the operations of
the session respect each other. -/
theorem wellRun_of_exclusive (downstreamSize upstreamSize : Nat) (halfClose : Bool)
    (s : SessionExec)
    (run : Run step Exclusive (initial downstreamSize upstreamSize halfClose) s) :
    WellRun s := by
  have kept : (Disciplined s ∧ Handled s) ∧ InOrder s ∧ Orderly s := by
    refine run.invariant (p := fun s => (Disciplined s ∧ Handled s) ∧ InOrder s ∧ Orderly s) ?_ ?_
    · exact ⟨⟨disciplined_initial _ _ _, handled_initial _ _ _⟩,
        ⟨fun _ => nil_prefix, fun _ _ => rfl⟩, Nat.zero_le 1, nil_prefix, fun _ => rfl⟩
    · rintro s event t ⟨⟨disciplined, handled⟩, inOrder, orderly⟩ exclusive taken
      have change := change_of_step handled.2.2.2 taken
      exact ⟨⟨disciplined_step disciplined handled.2.2.2 taken, handled_step handled taken⟩,
        inOrder_change inOrder disciplined handled change,
        orderly_change orderly disciplined handled exclusive change⟩
  obtain ⟨⟨disciplined, handled⟩, inOrder, orderly⟩ := kept
  exact wellRun_of disciplined handled inOrder orderly

/-- The child writes to one output after the other, each chunk is forwarded, and the child
exits. -/
def oneAfterTheOther : List Event :=
  [.asyncRun .none, .childWrites .stdOut [1, 2], .readChild .stdOut 2, .writeDownstreamSome 0 1,
    .childWrites .stdErr [3, 4], .writeDownstreamSome 0 1, .writeDownstream 0,
    .readChild .stdErr 2, .writeDownstreamSome 0 2, .writeDownstream 0, .childExits .none,
    .readChildFailed .stdOut eof, .readChildFailed .stdErr eof]

theorem wellRun_oneAfterTheOther :
    ((exec step (initial 16 16 true) oneAfterTheOther).getD (initial 16 16 true)).state =
        .closed ∧
      WellRun ((exec step (initial 16 16 true) oneAfterTheOther).getD
        (initial 16 16 true)) := by
  refine ⟨by decide, wellRun_of_exclusive 16 16 true _
    (Run.of_exec_getD oneAfterTheOther ?_ (by decide))⟩
  refine ⟨nofun, nofun, ?_, nofun, nofun, nofun, nofun, ?_, nofun, nofun, nofun, nofun, nofun,
    trivial⟩
  · exact fun _ _ _ => rfl
  · exact fun _ _ _ => rfl

/-- The child writes to both outputs at once and the socket takes a byte at a time. -/
def bothAtOnce : List Event :=
  [.asyncRun .none, .childWrites .stdOut [1, 2], .childWrites .stdErr [3, 4],
    .readChild .stdOut 2, .readChild .stdErr 2, .writeDownstreamSome 0 1, .writeDownstreamSome 1 1,
    .writeDownstreamSome 0 1, .writeDownstreamSome 1 1]

/-- Two writes to the socket are in flight, and the peer receives 1, 3, 2, 4 for the chunks
1, 2 and 3, 4. -/
theorem not_wellRun_bothAtOnce :
    Reaches step (initial 16 16 true)
        ((exec step (initial 16 16 true) bothAtOnce).getD (initial 16 16 true)) ∧
      ((exec step (initial 16 16 true) bothAtOnce).getD
        (initial 16 16 true)).writesDownstream.length = 2 ∧
      ((exec step (initial 16 16 true) bothAtOnce).getD
        (initial 16 16 true)).received.map (·.2) = [1, 3, 2, 4] ∧
      ¬ WellRun ((exec step (initial 16 16 true) bothAtOnce).getD
        (initial 16 16 true)) := by
  have two : ((exec step (initial 16 16 true) bothAtOnce).getD
      (initial 16 16 true)).writesDownstream.length = 2 := by decide
  refine ⟨Reaches.of_exec_getD bothAtOnce (by decide), two, by decide, ?_⟩
  rintro ⟨⟨-, once, -⟩, -⟩
  rw [two] at once
  exact absurd once (by decide)

end Rstream.Ncat.SessionExec
