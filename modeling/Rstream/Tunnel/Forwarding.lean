import Rstream.Io.Payloader
import Rstream.Library.Counting
import Rstream.Tunnel.Session

/-!
# What a session of the tunnel proxy forwards

While a session is connected each direction has exactly one operation in flight: a read
of its source into the buffer of the source, or a write of its destination from that
buffer (`Lane`). A read that completes is followed by the write of what it returned, and
the write by the next read, so what was handed to the destination is what was read from
the source, and what was handed over is written except for the write in flight.

A session that closes leaves the operations in flight, whose handlers then do nothing.
-/

namespace Rstream.Tunnel.Session

open List
open Function (update update_of_ne update_self)
open Library
open IoRstrm Core

variable {settings : SettingsProxy} {s t : Session} {side : Side}

/-- The operations in flight in the direction from a side to the other. -/
def outstanding (s : Session) (side : Side) : Nat :=
  s.reads.countP (· == side) + s.writes.countP (·.1 == side.other)

/-- The bytes of the writes of a socket that are in flight. -/
def pending (s : Session) (side : Side) : List UInt8 :=
  (s.writes.filter (·.1 == side)).flatMap Prod.snd

/-- The direction from a side to the other in a connected session. -/
structure Lane (s : Session) (side : Side) : Prop where
  buffer : ∃ memory, s.bufferRead side = some memory ∧
    (side ∈ s.reads → Io.Memory.Fresh memory)
  forwarded : s.forwarded side.other = s.received side
  written : s.forwarded side.other = s.written side.other ++ s.pending side.other

/-- Nothing has been read or written, and no operation of a connected session is in flight. -/
structure Fresh (s : Session) : Prop where
  reads : s.reads = []
  writes : s.writes = []
  received : s.received = fun _ => []
  forwarded : s.forwarded = fun _ => []
  written : s.written = fun _ => []

/-- What holds in each state. -/
def Phase (s : Session) : Prop :=
  match s.state with
  | .null => s.Fresh ∧ s.handler = false ∧ s.completions = []
  | .connecting => s.Fresh ∧ s.handler = true ∧ s.completions = [] ∧
      0 < s.resolves + s.connects ∧ ∀ side, (s.bufferRead side).isSome
  | .connected => s.handler = true ∧ s.completions = [] ∧
      ∀ side, s.Lane side ∧ s.outstanding side = 1
  | .disconnected => s.handler = false ∧ s.completions.length = 1 ∧ ∀ side, s.closed side = true

/-- The invariant of a session. -/
structure Inv (s : Session) : Prop where
  single : ∀ side, s.outstanding side ≤ 1
  ordered : ∀ side, s.forwarded side.other <+: s.received side
  phase : s.Phase

theorem inv_init : Inv {} where
  single _ := Nat.zero_le 1
  ordered _ := prefix_rfl
  phase := ⟨⟨rfl, rfl, rfl, rfl, rfl⟩, rfl, rfl⟩

/-- What the invariant reads, unchanged. -/
theorem Inv.of_same (inv : s.Inv) (state : t.state = s.state) (handler : t.handler = s.handler)
    (bufferRead : t.bufferRead = s.bufferRead) (closed : t.closed = s.closed)
    (reads : t.reads = s.reads) (writes : t.writes = s.writes) (received : t.received = s.received)
    (forwarded : t.forwarded = s.forwarded) (written : t.written = s.written)
    (completions : t.completions = s.completions)
    (opening : s.state = .connecting → 0 < t.resolves + t.connects) : t.Inv := by
  have outstanding : t.outstanding = s.outstanding := by
    funext side
    rw [Session.outstanding, Session.outstanding, reads, writes]
  have fresh : s.Fresh → t.Fresh := fun fresh =>
    ⟨reads ▸ fresh.reads, writes ▸ fresh.writes, received ▸ fresh.received,
      forwarded ▸ fresh.forwarded, written ▸ fresh.written⟩
  refine ⟨?_, ?_, ?_⟩
  · rw [outstanding]
    exact inv.single
  · rw [forwarded, received]
    exact inv.ordered
  · have phase := inv.phase
    cases known : s.state <;> simp only [Phase, known] at phase <;>
      simp only [Phase, state, known] <;> rw [handler, completions]
    · exact ⟨fresh phase.1, phase.2⟩
    · rw [bufferRead]
      exact ⟨fresh phase.1, phase.2.1, phase.2.2.1, opening known, phase.2.2.2.2⟩
    · rw [outstanding]
      refine ⟨phase.1, phase.2.1, fun side => ⟨⟨?_, ?_, ?_⟩, (phase.2.2 side).2⟩⟩
      · rw [bufferRead, reads]
        exact (phase.2.2 side).1.buffer
      · rw [forwarded, received]
        exact (phase.2.2 side).1.forwarded
      · rw [forwarded, written, pending, writes]
        exact (phase.2.2 side).1.written
    · rw [closed]
      exact phase

/-! ## Closing -/

/-- What closing needs of the state before. -/
structure Closable (s : Session) : Prop where
  single : ∀ side, s.outstanding side ≤ 1
  ordered : ∀ side, s.forwarded side.other <+: s.received side
  handler : s.handler = true
  completions : s.completions = []

theorem Closable.onClose (closable : s.Closable) (errorCode : ErrorCode)
    (up : s.state = .connecting ∨ s.state = .connected) : (s.onClose errorCode).Inv := by
  have notDown : ¬ (s.state = .null ∨ s.state = .disconnected) := by
    rcases up with state | state <;> simp [state]
  rw [Session.onClose, if_neg notDown]
  refine ⟨closable.single, closable.ordered, ?_⟩
  refine ⟨rfl, ?_, fun _ => rfl⟩
  simp [setState, closable.handler, closable.completions]

theorem Closable.onError (closable : s.Closable) {errorCode : ErrorCode}
    (failed : errorCode.failed = true) (up : s.state = .connecting ∨ s.state = .connected) :
    (s.onError errorCode).Inv := by
  rw [Session.onError, if_pos failed]
  exact closable.onClose errorCode up

theorem Inv.closable (inv : s.Inv) (up : s.state = .connecting ∨ s.state = .connected) :
    s.Closable := by
  have phase := inv.phase
  rcases up with state | state <;> simp only [Phase, state] at phase
  · exact ⟨inv.single, inv.ordered, phase.2.1, phase.2.2.1⟩
  · exact ⟨inv.single, inv.ordered, phase.1, phase.2.1⟩

/-- Closing a session that is down does nothing. -/
theorem Inv.onClose (inv : s.Inv) (errorCode : ErrorCode) : (s.onClose errorCode).Inv := by
  cases state : s.state with
  | null =>
    rw [Session.onClose, if_pos (.inl state)]
    exact inv
  | disconnected =>
    rw [Session.onClose, if_pos (.inr state)]
    exact inv
  | connecting => exact (inv.closable (.inl state)).onClose errorCode (.inl state)
  | connected => exact (inv.closable (.inr state)).onClose errorCode (.inr state)

theorem Inv.cancelInternal (inv : s.Inv) (errorCode : ErrorCode) :
    (s.cancelInternal errorCode).Inv := by
  have closes : ∀ cause, (s.doClose cause).Inv := by
    intro cause
    rw [doClose]
    split
    · exact inv
    · exact inv.onClose cause
  have fails : ∀ cause, (s.onError cause).Inv := by
    intro cause
    rw [Session.onError]
    split
    · exact inv.onClose cause
    · exact inv
  rw [Session.cancelInternal]
  split
  · exact closes _
  · exact fails _
  · exact inv
  · exact inv

/-! ## Opening -/

theorem Inv.asyncRunInternal (inv : s.Inv) : (s.asyncRunInternal settings).Inv := by
  rw [Session.asyncRunInternal]
  split
  · refine inv.of_same rfl rfl rfl rfl rfl rfl rfl rfl rfl rfl fun connecting => ?_
    have phase := inv.phase
    simp only [Phase, connecting] at phase
    exact phase.2.2.2.1
  · rename_i null
    have phase := inv.phase
    rw [not_not] at null
    simp only [Phase, null] at phase
    have opening : 0 < s.resolves + 1 + s.connects := by omega
    simp only [armStateTimer]
    split <;>
      exact ⟨inv.single, inv.ordered, ⟨phase.1.reads, phase.1.writes, phase.1.received,
        phase.1.forwarded, phase.1.written⟩, rfl, phase.2.2, opening, fun _ => rfl⟩

/-- The two reads that a session starts when it is connected. -/
theorem inv_onConnected (fresh : s.Fresh) (handler : s.handler = true)
    (completions : s.completions = []) (buffers : ∀ side, (s.bufferRead side).isSome) :
    s.onConnected.Inv := by
  have reads : s.onConnected.reads = [.downstream, .upstream] := by
    show s.reads ++ [Side.downstream] ++ [Side.upstream] = _
    rw [fresh.reads]
    rfl
  have writes : s.onConnected.writes = [] := fresh.writes
  have received : s.onConnected.received = fun _ => [] := fresh.received
  have forwarded : s.onConnected.forwarded = fun _ => [] := fresh.forwarded
  have written : s.onConnected.written = fun _ => [] := fresh.written
  have single : ∀ side, s.onConnected.outstanding side = 1 := by
    intro side
    rw [outstanding, reads, writes]
    cases side <;> rfl
  have buffer : ∀ side, ∃ memory, s.onConnected.bufferRead side = some memory ∧
      Io.Memory.Fresh memory := by
    intro side
    obtain ⟨memory, known⟩ := Option.isSome_iff_exists.mp (buffers side)
    refine ⟨memory.resetSize, ?_, Io.Memory.fresh_resetSize memory⟩
    cases side <;>
      simp [onConnected, runLoop, doRead, setState, known]
  refine ⟨fun side => Nat.le_of_eq (single side), fun side => ?_, ?_⟩
  · rw [forwarded]
    exact nil_prefix
  · refine ⟨handler, completions, fun side => ⟨⟨?_, ?_, ?_⟩, single side⟩⟩
    · obtain ⟨memory, known, whole⟩ := buffer side
      exact ⟨memory, known, fun _ => whole⟩
    · rw [forwarded, received]
    · rw [forwarded, written, pending, writes]
      rfl

theorem Inv.onDoResolveHost (inv : s.Inv) (errorCode : ErrorCode) (results : Nat) :
    ({ s with resolves := s.resolves - 1 }.onDoResolveHost errorCode results).Inv := by
  rw [Session.onDoResolveHost]
  split
  · rename_i away
    exact inv.of_same rfl rfl rfl rfl rfl rfl rfl rfl rfl rfl fun connecting =>
      absurd connecting away
  · rename_i connecting
    rw [not_not] at connecting
    have closable := inv.closable (.inl connecting)
    simp only
    generalize (if errorCode.failed = false ∧ results = 0 then
      Error.Code.noValidEndpoint.toErrorCode else errorCode) = cause
    split
    · rename_i failed
      refine Closable.onError ?_ failed (.inl connecting)
      exact ⟨closable.single, closable.ordered, closable.handler, closable.completions⟩
    · exact inv.of_same rfl rfl rfl rfl rfl rfl rfl rfl rfl rfl fun _ =>
        Nat.lt_of_lt_of_le (Nat.succ_pos s.connects) (Nat.le_add_left _ _)

theorem Inv.onOpen (inv : s.Inv) (errorCode : ErrorCode) :
    ({ s with connects := s.connects - 1 }.onOpen errorCode).Inv := by
  rw [Session.onOpen]
  split
  · rename_i away
    exact inv.of_same rfl rfl rfl rfl rfl rfl rfl rfl rfl rfl fun connecting =>
      absurd connecting away
  · rename_i connecting
    rw [not_not] at connecting
    have closable := inv.closable (.inl connecting)
    have phase := inv.phase
    have known : s.state = .connecting := connecting
    simp only [Phase, known] at phase
    split
    · rename_i failed
      refine Closable.onError ?_ failed (.inl connecting)
      exact ⟨closable.single, closable.ordered, closable.handler, closable.completions⟩
    · exact inv_onConnected ⟨phase.1.reads, phase.1.writes, phase.1.received, phase.1.forwarded,
        phase.1.written⟩ phase.2.1 phase.2.2.1 phase.2.2.2.2

/-! ## Reading -/

variable {bytes : List UInt8} {index : Nat} {event : Event}

/-- What a read puts into a whole block is what the block shrunk to it holds. -/
theorem setSize_fill {memory : Memory} (fresh : Io.Memory.Fresh memory)
    (fits : bytes.length ≤ memory.size) :
    ∃ resized : Memory, (Buffer.mk [fill memory bytes fits]).setSize bytes.length =
      .ok ⟨[resized]⟩ ∧ resized.bytes = bytes := by
  obtain ⟨front, whole⟩ := fresh
  have base : (fill memory bytes fits).base = bytes ++ memory.bytes.drop bytes.length := by
    show memory.base.take memory.offset ++ _ ++ memory.base.drop (memory.offset + memory.size) = _
    rw [front, whole, Nat.zero_add, take_zero, nil_append, drop_length,
      append_nil]
  have length : (fill memory bytes fits).base.length = memory.size := by
    rw [base, length_append, length_drop, memory.length_bytes]
    omega
  have filled : Io.Memory.Fresh (fill memory bytes fits) := ⟨front, length.symm⟩
  obtain ⟨resized, sized, sameBase, offset, size, -⟩ :=
    Io.setSize_fresh filled (length.symm ▸ fits)
  refine ⟨resized, sized, ?_⟩
  rw [Memory.bytes, sameBase, offset, size, base, drop_zero, take_left']
  rfl

/-- Nothing in flight comes back, and what a socket returned is only added to. -/
theorem Inv.of_disconnected (inv : s.Inv) (disconnected : s.state = .disconnected)
    (state : t.state = .disconnected) (handler : t.handler = s.handler)
    (closed : t.closed = s.closed) (completions : t.completions = s.completions)
    (outstanding : ∀ side, t.outstanding side ≤ s.outstanding side)
    (forwarded : t.forwarded = s.forwarded) (received : ∀ side, s.received side <+: t.received side) :
    t.Inv where
  single side := Nat.le_trans (outstanding side) (inv.single side)
  ordered side := by
    rw [forwarded]
    exact (inv.ordered side).trans (received side)
  phase := by
    have phase := inv.phase
    simp only [Phase, disconnected] at phase
    simp only [Phase, state]
    rw [handler, completions, closed]
    exact phase

theorem Inv.connected_or_disconnected (inv : s.Inv) (busy : s.reads ≠ [] ∨ s.writes ≠ []) :
    s.state = .connected ∨ s.state = .disconnected := by
  have phase := inv.phase
  have idle : s.Fresh → False := fun fresh => busy.elim (· fresh.reads) (· fresh.writes)
  cases state : s.state <;> simp only [Phase, state] at phase
  · exact (idle phase.1).elim
  · exact (idle phase.1).elim
  · exact .inl rfl
  · exact .inr rfl

theorem ne_nil_of_taken {α : Type} {entries : List α} {entry : α}
    (taken : entries[index]? = some entry) : entries ≠ [] := by
  intro empty
  rw [empty] at taken
  cases taken

/-- Taking a read leaves its direction without an operation and the other as it was. -/
theorem outstanding_of_read (taken : s.reads[index]? = some side) (other : Side) :
    s.outstanding other = { s with reads := s.reads.eraseIdx index }.outstanding other +
      if other = side then 1 else 0 := by
  have counted := countP_of_taken taken (· == other)
  have flipped : (side == other) = decide (other = side) := by
    cases side <;> cases other <;> rfl
  rw [flipped] at counted
  rw [outstanding, outstanding, counted]
  simp only [decide_eq_true_eq]
  omega

/-- Taking a write leaves its direction without an operation and the other as it was. -/
theorem outstanding_of_write (taken : s.writes[index]? = some (side, bytes)) (other : Side) :
    s.outstanding other = { s with writes := s.writes.eraseIdx index }.outstanding other +
      if other = side.other then 1 else 0 := by
  have counted := countP_of_taken taken (·.1 == other.other)
  have flipped : (side == other.other) = decide (other = side.other) := by
    cases side <;> cases other <;> rfl
  simp only [flipped] at counted
  rw [outstanding, outstanding, counted]
  simp only [decide_eq_true_eq]
  omega

/-- A read is started in a direction without an operation. -/
theorem outstanding_of_doRead (other : Side) :
    (s.doRead side).outstanding other = s.outstanding other + if other = side then 1 else 0 := by
  have flipped : (side == other) = decide (other = side) := by
    cases side <;> cases other <;> rfl
  rw [outstanding, outstanding, doRead, countP_append, countP_singleton, flipped]
  simp only [decide_eq_true_eq]
  omega

/-- A write is started in a direction without an operation. -/
theorem outstanding_of_doWrite (other : Side) :
    (s.doWrite side.other).outstanding other =
      s.outstanding other + if other = side then 1 else 0 := by
  have flipped : (side.other == other.other) = decide (other = side) := by
    cases side <;> cases other <;> rfl
  rw [outstanding, outstanding, doWrite, countP_append, countP_singleton]
  simp only [flipped, decide_eq_true_eq]
  omega

theorem not_mem_reads_of_outstanding (idle : s.outstanding side = 0) : side ∉ s.reads := by
  intro mem
  have counted : 0 < s.reads.countP (· == side) :=
    countP_pos_iff.mpr ⟨side, mem, beq_self_eq_true side⟩
  rw [outstanding] at idle
  omega

theorem inv_forward {memory : Memory} (connected : s.state = .connected)
    (handler : s.handler = true) (completions : s.completions = []) (idle : s.outstanding side = 0)
    (busy : s.outstanding side.other = 1) (lane : s.Lane side.other)
    (buffer : s.bufferRead side = some memory) (holds : memory.bytes = bytes)
    (received : s.received side = s.forwarded side.other ++ bytes)
    (written : s.forwarded side.other = s.written side.other ++ s.pending side.other) :
    (s.doWrite side.other).Inv := by
  have single : ∀ x, (s.doWrite side.other).outstanding x = 1 := by
    intro x
    rw [outstanding_of_doWrite]
    rcases x.eq_or_eq_other side with rfl | rfl
    · rw [idle, if_pos rfl]
    · rw [busy, if_neg side.other_ne]
  have given : ((s.bufferRead side.other.other).map Memory.bytes).getD [] = bytes := by
    rw [Side.other_other, buffer, ← holds]
    rfl
  have forwarded : (s.doWrite side.other).forwarded =
      update s.forwarded side.other (s.forwarded side.other ++ bytes) := by
    rw [doWrite, given]
  have pendingSame : (s.doWrite side.other).pending side.other =
      s.pending side.other ++ bytes := by
    rw [pending, doWrite, given, filter_append, flatMap_append, ← pending]
    simp
  have pendingOther : (s.doWrite side.other).pending side = s.pending side := by
    have different : (side.other == side) = false := beq_eq_false_iff_ne.mpr side.other_ne
    rw [pending, doWrite, filter_append, flatMap_append, ← pending]
    simp [different]
  have lanes : ∀ x, (s.doWrite side.other).Lane x := by
    intro x
    rcases x.eq_or_eq_other side with rfl | rfl
    · refine ⟨⟨memory, buffer, fun mem => ?_⟩, ?_, ?_⟩
      · have absent : x ∉ s.reads := not_mem_reads_of_outstanding idle
        exact absurd mem absent
      · rw [forwarded, update_self]
        exact received.symm
      · rw [forwarded, update_self, pendingSame, ← append_assoc]
        exact congrArg (· ++ bytes) written
    · obtain ⟨kept, same, all⟩ := lane
      rw [Side.other_other] at same all
      refine ⟨kept, ?_, ?_⟩ <;> rw [Side.other_other]
      · rw [forwarded, update_of_ne side.other_ne.symm]
        exact same
      · rw [forwarded, update_of_ne side.other_ne.symm, pendingOther]
        exact all
  refine ⟨fun x => Nat.le_of_eq (single x), fun x => ?_, ?_⟩
  · exact (lanes x).forwarded ▸ prefix_rfl
  · have state : (s.doWrite side.other).state = .connected := connected
    simp only [Phase, state]
    exact ⟨handler, completions, fun x => ⟨lanes x, single x⟩⟩

theorem readInto_eq (filled : s.readInto side bytes = some t) :
    ∃ buffers, t = { s with bufferRead := buffers } := by
  rw [readInto] at filled
  split at filled
  · cases filled
    exact ⟨s.bufferRead, rfl⟩
  · split at filled
    · cases filled
      exact ⟨_, rfl⟩
    · cases filled

theorem Inv.onRead (inv : s.Inv) (connected : s.state = .connected)
    (taken : s.reads[index]? = some side)
    (completed : { s with reads := s.reads.eraseIdx index }.readCompleted side (.ok bytes) =
      some t) : t.Inv := by
  have phase := inv.phase
  simp only [Phase, connected] at phase
  obtain ⟨handler, completions, lanes⟩ := phase
  obtain ⟨lane, one⟩ := lanes side
  obtain ⟨opposite, other⟩ := lanes side.other
  obtain ⟨memory, buffer, fresh⟩ := lane.buffer
  have counts := outstanding_of_read taken
  have idle := counts side
  have busy := counts side.other
  rw [one, if_pos rfl] at idle
  rw [other, if_neg side.other_ne] at busy
  obtain ⟨filled, into, result⟩ := Option.map_eq_some_iff.mp completed
  rw [readInto] at into
  simp only [buffer] at into
  split at into
  · rename_i fits
    obtain ⟨resized, sized, holds⟩ := setSize_fill (fresh (mem_of_taken taken)) fits
    cases into
    rw [← result, Session.onRead, if_neg (not_not.mpr connected),
      if_neg (Bool.eq_false_iff.mp ErrorCode.failed_none)]
    have kept : ∀ x ∈ s.reads.eraseIdx index, x ∈ s.reads := fun _ mem =>
      (eraseIdx_sublist _ _).subset mem
    refine inv_forward connected handler completions ?_ ?_ ?_ ?_ holds ?_
      lane.written
    · exact (Nat.succ_injective idle).symm
    · exact busy.symm
    · refine ⟨?_, ?_, opposite.written⟩
      · obtain ⟨opposed, known, whole⟩ := opposite.buffer
        refine ⟨opposed, ?_, fun mem => whole (kept _ mem)⟩
        show update (update s.bufferRead side _) side _ side.other = _
        rw [update_of_ne side.other_ne, update_of_ne side.other_ne]
        exact known
      · show s.forwarded side.other.other = update s.received side _ side.other
        rw [update_of_ne side.other_ne]
        exact opposite.forwarded
    · simp only [setSize, update_self, Option.map_some, sized]
    · show update s.received side _ side = s.forwarded side.other ++ bytes
      rw [update_self, lane.forwarded]
  · cases into

theorem Inv.readCompleted (inv : s.Inv) (taken : s.reads[index]? = some side)
    {result : Except ErrorCode (List UInt8)}
    (completed : { s with reads := s.reads.eraseIdx index }.readCompleted side result = some t) :
    t.Inv := by
  have fewer : ∀ x, { s with reads := s.reads.eraseIdx index }.outstanding x ≤
      s.outstanding x := by
    intro x
    rw [outstanding_of_read taken x]
    exact Nat.le_add_right _ _
  rcases inv.connected_or_disconnected (.inl (ne_nil_of_taken taken)) with up | down
  · cases result with
    | ok bytes => exact inv.onRead up taken completed
    | error errorCode =>
      rw [Session.readCompleted] at completed
      split at completed
      · rename_i failed
        cases completed
        have closable := inv.closable (.inr up)
        rw [Session.onRead, if_neg (not_not.mpr up), if_pos failed]
        refine Closable.onError ?_ failed (.inr up)
        exact ⟨fun x => Nat.le_trans (fewer x) (closable.single x), closable.ordered,
          closable.handler, closable.completions⟩
      · cases completed
  · have away : s.state ≠ .connected := by rw [down]; decide
    cases result with
    | error errorCode =>
      rw [Session.readCompleted] at completed
      split at completed
      · cases completed
        rw [Session.onRead, if_pos away]
        exact inv.of_disconnected down down rfl rfl rfl fewer rfl fun _ => prefix_rfl
      · cases completed
    | ok bytes =>
      obtain ⟨filled, into, rfl⟩ := Option.map_eq_some_iff.mp completed
      obtain ⟨buffers, rfl⟩ := readInto_eq into
      rw [Session.onRead, if_pos away]
      refine inv.of_disconnected down down rfl rfl rfl fewer rfl fun x => ?_
      show s.received x <+: update s.received side _ x
      rcases eq_or_ne x side with rfl | different
      · rw [update_self]
        exact prefix_append _ _
      · exact (update_of_ne different _ _).symm ▸ prefix_rfl

/-! ## Writing -/

theorem pending_of_write (taken : s.writes[index]? = some (side, bytes))
    (single : s.outstanding side.other ≤ 1) :
    s.pending side = bytes ∧
      { s with writes := s.writes.eraseIdx index }.pending side = [] := by
  have counted := countP_of_taken taken (·.1 == side)
  rw [outstanding, Side.other_other] at single
  simp only [beq_self_eq_true, if_true] at counted
  have others : (s.writes.eraseIdx index).countP (·.1 == side) = 0 := by omega
  have none : (s.writes.eraseIdx index).filter (·.1 == side) = [] := by
    rw [filter_eq_nil_iff]
    exact countP_eq_zero.mp others
  have permuted := (perm_of_taken taken).filter (·.1 == side)
  simp only [filter_cons, beq_self_eq_true, if_true, none] at permuted
  refine ⟨?_, ?_⟩
  · rw [pending, perm_singleton.mp permuted.symm]
    exact append_nil bytes
  · rw [pending]
    show ((s.writes.eraseIdx index).filter (·.1 == side)).flatMap Prod.snd = []
    rw [none]
    rfl

theorem pending_of_other_write (taken : s.writes[index]? = some (side, bytes)) :
    { s with writes := s.writes.eraseIdx index }.pending side.other = s.pending side.other := by
  have different : (fun entry : Side × List UInt8 => entry.1 == side.other) (side, bytes) = false :=
    beq_eq_false_iff_ne.mpr side.other_ne.symm
  have kept : (s.writes.eraseIdx index).filter (·.1 == side.other) =
      s.writes.filter (·.1 == side.other) := filter_of_taken taken different
  rw [pending, pending]
  exact congrArg (·.flatMap Prod.snd) kept

theorem Inv.onWrite (inv : s.Inv) (connected : s.state = .connected)
    (taken : s.writes[index]? = some (side, bytes)) :
    ({ s with
      writes := s.writes.eraseIdx index
      written := update s.written side (s.written side ++ bytes) }.doRead side.other).Inv := by
  have phase := inv.phase
  simp only [Phase, connected] at phase
  obtain ⟨handler, completions, lanes⟩ := phase
  obtain ⟨lane, one⟩ := lanes side.other
  obtain ⟨opposite, other⟩ := lanes side
  have counts := outstanding_of_write taken
  have single : ∀ x, ({ s with
      writes := s.writes.eraseIdx index
      written := update s.written side (s.written side ++ bytes) }.doRead
        side.other).outstanding x = 1 := by
    intro x
    rw [outstanding_of_doRead]
    exact (counts x).symm.trans (lanes x).2
  obtain ⟨carried, emptied⟩ := pending_of_write taken (Nat.le_of_eq one)
  have kept := pending_of_other_write taken
  have laneWritten := lane.written
  rw [Side.other_other, carried] at laneWritten
  have next : ({ s with
      writes := s.writes.eraseIdx index
      written := update s.written side (s.written side ++ bytes) }.doRead
        side.other).Lane side.other := by
    refine ⟨?_, ?_, ?_⟩
    · obtain ⟨memory, buffer, -⟩ := lane.buffer
      refine ⟨memory.resetSize, ?_, fun _ => Io.Memory.fresh_resetSize memory⟩
      simp only [doRead, update_self, buffer, Option.map_some]
    · exact lane.forwarded
    · rw [Side.other_other]
      show s.forwarded side = update s.written side _ side ++
        ((s.writes.eraseIdx index).filter (·.1 == side)).flatMap Prod.snd
      rw [update_self, laneWritten]
      exact (append_nil _).symm.trans (congrArg (s.written side ++ bytes ++ ·) emptied.symm)
  have across : ({ s with
      writes := s.writes.eraseIdx index
      written := update s.written side (s.written side ++ bytes) }.doRead
        side.other).Lane side := by
    refine ⟨?_, opposite.forwarded, ?_⟩
    · obtain ⟨memory, buffer, fresh⟩ := opposite.buffer
      refine ⟨memory, ?_, fun mem => fresh ?_⟩
      · simp only [doRead, update_of_ne side.other_ne.symm, buffer]
      · rcases mem_append.mp mem with earlier | added
        · exact earlier
        · exact absurd (mem_singleton.mp added) side.other_ne.symm
    · show s.forwarded side.other = update s.written side _ side.other ++
        ((s.writes.eraseIdx index).filter (·.1 == side.other)).flatMap Prod.snd
      rw [update_of_ne side.other_ne]
      exact opposite.written.trans (congrArg (s.written side.other ++ ·) kept.symm)
  refine ⟨fun x => Nat.le_of_eq (single x), inv.ordered, ?_⟩
  have state : ({ s with
      writes := s.writes.eraseIdx index
      written := update s.written side (s.written side ++ bytes) }.doRead
        side.other).state = .connected := connected
  simp only [Phase, state]
  refine ⟨handler, completions, fun x => ⟨?_, single x⟩⟩
  rcases x.eq_or_eq_other side with rfl | rfl
  · exact across
  · exact next

theorem Inv.writeCompleted (inv : s.Inv) (taken : s.writes[index]? = some (side, bytes))
    (errorCode : ErrorCode) :
    ({ s with writes := s.writes.eraseIdx index }.writeCompleted side bytes errorCode).Inv := by
  have fewer : ∀ x, { s with writes := s.writes.eraseIdx index }.outstanding x ≤
      s.outstanding x := by
    intro x
    rw [outstanding_of_write taken x]
    exact Nat.le_add_right _ _
  rw [Session.writeCompleted]
  rcases inv.connected_or_disconnected (.inr (ne_nil_of_taken taken)) with up | down
  · by_cases failed : errorCode.failed = true
    · simp only [if_pos failed]
      rw [Session.onWrite, if_neg (not_not.mpr up), if_pos failed]
      have closable := inv.closable (.inr up)
      refine Closable.onError ?_ failed (.inr up)
      exact ⟨fun x => Nat.le_trans (fewer x) (closable.single x), closable.ordered,
        closable.handler, closable.completions⟩
    · simp only [if_neg failed]
      rw [Session.onWrite, if_neg (not_not.mpr up), if_neg failed]
      exact inv.onWrite up taken
  · have away : s.state ≠ .connected := by rw [down]; decide
    by_cases failed : errorCode.failed = true
    · simp only [if_pos failed]
      rw [Session.onWrite, if_pos away]
      exact inv.of_disconnected down down rfl rfl rfl fewer rfl fun _ => prefix_rfl
    · simp only [if_neg failed]
      rw [Session.onWrite, if_pos away]
      exact inv.of_disconnected down down rfl rfl rfl fewer rfl fun _ => prefix_rfl

/-! ## Runs -/

theorem Inv.step (inv : s.Inv) (taken : s.step settings event = some t) : t.Inv := by
  cases event with
  | run =>
    cases taken
    exact inv.asyncRunInternal
  | cancel =>
    cases taken
    exact inv.cancelInternal _
  | timer =>
    rw [Session.step] at taken
    split at taken
    · cases taken
    · cases taken
      refine Inv.cancelInternal ?_ _
      refine inv.of_same rfl rfl rfl rfl rfl rfl rfl rfl rfl rfl fun connecting => ?_
      have phase := inv.phase
      simp only [Phase, connecting] at phase
      exact phase.2.2.2.1
  | resolved errorCode results =>
    rw [Session.step] at taken
    split at taken
    · cases taken
    · cases taken
      exact inv.onDoResolveHost errorCode results
  | opened errorCode =>
    rw [Session.step] at taken
    split at taken
    · cases taken
    · cases taken
      exact inv.onOpen errorCode
  | read index result =>
    rw [Session.step] at taken
    split at taken
    · cases taken
    · rename_i side found
      exact inv.readCompleted found taken
  | written index errorCode =>
    rw [Session.step] at taken
    split at taken
    · cases taken
    · rename_i side bytes found
      cases taken
      exact inv.writeCompleted found errorCode

theorem inv_of_reaches (run : Reaches (step settings) {} s) : s.Inv :=
  run.invariant inv_init fun _ _ _ inv _ taken => inv.step taken

/-- No operation is in flight whose handler the session waits for. -/
def Quiet (s : Session) : Prop :=
  s.resolves = 0 ∧ s.connects = 0 ∧ s.reads = [] ∧ s.writes = []

/-- **Forwarding.** In every run and for each direction, what is handed to the writes of the
destination is a prefix of what the reads of the source returned; at most one operation is in
flight, so the buffer is not read into while it is written from; and the run handler is invoked
at most once, with both sockets closed, and has been invoked once the session that was started
has nothing left in flight. -/
theorem forwards (run : Reaches (step settings) {} s) :
    (∀ side, s.forwarded side.other <+: s.received side) ∧
    (∀ side, s.outstanding side ≤ 1) ∧
    (∀ side, side.other ∈ s.writes.map Prod.fst → side ∉ s.reads) ∧
    s.completions.length ≤ 1 ∧
    (s.completions ≠ [] → ∀ side, s.closed side = true) ∧
    (s.state ≠ .null → s.Quiet → s.completions.length = 1) := by
  have inv := inv_of_reaches run
  have phase := inv.phase
  refine ⟨inv.ordered, inv.single, ?_, ?_, ?_, ?_⟩
  · intro side writing reading
    obtain ⟨entry, mem, same⟩ := mem_map.mp writing
    have writes : 0 < s.writes.countP (·.1 == side.other) :=
      countP_pos_iff.mpr ⟨entry, mem, beq_iff_eq.mpr same⟩
    have reads : 0 < s.reads.countP (· == side) :=
      countP_pos_iff.mpr ⟨side, reading, beq_self_eq_true side⟩
    have single := inv.single side
    rw [outstanding] at single
    omega
  · cases state : s.state <;> simp only [Phase, state] at phase
    · simp [phase.2.2]
    · simp [phase.2.2.1]
    · simp [phase.2.1]
    · exact Nat.le_of_eq phase.2.1
  · intro invoked
    cases state : s.state <;> simp only [Phase, state] at phase
    · exact absurd phase.2.2 invoked
    · exact absurd phase.2.2.1 invoked
    · exact absurd phase.2.1 invoked
    · exact phase.2.2
  · intro started quiet
    obtain ⟨resolves, connects, reads, writes⟩ := quiet
    cases state : s.state <;> simp only [Phase, state] at phase
    · exact absurd state started
    · omega
    · have one := (phase.2.2 .upstream).2
      rw [outstanding, reads, writes] at one
      cases one
    · exact phase.2.1

/-- Buffers of four bytes, and no timeout. -/
def smallSettings : SettingsProxy := ⟨fun _ => 4, 0⟩

/-- A session opens and forwards two bytes that its upstream socket returns. -/
def forwardTwo : List Event :=
  [.run, .resolved .none 1, .opened .none, .read 1 (.ok [7, 8]), .written 0 .none]

theorem forwardTwo_isSome : (exec (step smallSettings) {} forwardTwo).isSome = true := by
  decide

/-- A session that has forwarded two bytes and reads on. -/
def forwardingSession : Session :=
  (exec (step smallSettings) {} forwardTwo).get forwardTwo_isSome

theorem forwardingSession_forwards :
    forwardingSession.forwarded .downstream = [7, 8] ∧
      forwardingSession.forwarded .downstream <+: forwardingSession.received .upstream ∧
      forwardingSession.outstanding .upstream ≤ 1 := by
  have run : Reaches (step smallSettings) {} forwardingSession :=
    Reaches.of_exec forwardTwo_isSome
  have holds := forwards run
  exact ⟨by decide, holds.1 .upstream, holds.2.1 .upstream⟩

/-! ## End of stream -/

/-- Nothing fails but reads that report the end of their stream. -/
def Clean (_ : Session) : Event → Prop
  | .cancel | .timer => False
  | .resolved errorCode results => errorCode.failed = false ∧ results ≠ 0
  | .opened errorCode | .written _ errorCode => errorCode.failed = false
  | .read _ (.error errorCode) => errorCode = endOfFile
  | .run | .read _ (.ok _) => True

theorem state_asyncRunInternal (up : s.state ≠ .disconnected) :
    (s.asyncRunInternal settings).state ≠ .disconnected := by
  rw [Session.asyncRunInternal]
  split
  · exact up
  · simp only [armStateTimer]
    split <;> exact SessionState.noConfusion

/-- What succeeds does not close the session. -/
theorem closed_by_endOfFile (clean : Clean s event) (taken : s.step settings event = some t)
    (up : s.state ≠ .disconnected) (down : t.state = .disconnected) :
    ∃ index side, event = .read index (.error endOfFile) ∧ s.reads[index]? = some side ∧
      { s with reads := s.reads.eraseIdx index }.readCompleted side (.error endOfFile) =
        some t := by
  cases event with
  | run =>
    cases taken
    exact absurd down (state_asyncRunInternal up)
  | cancel | timer => exact clean.elim
  | resolved errorCode results =>
    obtain ⟨resolved, found⟩ := clean
    rw [Session.step] at taken
    split at taken
    · cases taken
    · cases taken
      rw [Session.onDoResolveHost] at down
      split at down
      · exact absurd down up
      · simp only [found, and_false, if_false, resolved] at down
        exact absurd down up
  | opened errorCode =>
    have opened : errorCode.failed = false := clean
    rw [Session.step] at taken
    split at taken
    · cases taken
    · cases taken
      rw [Session.onOpen] at down
      split at down
      · exact absurd down up
      · rw [if_neg (Bool.eq_false_iff.mp opened)] at down
        cases down
  | written index errorCode =>
    have succeeded : errorCode.failed = false := clean
    rw [Session.step] at taken
    split at taken
    · cases taken
    · cases taken
      rw [Session.writeCompleted, if_neg (Bool.eq_false_iff.mp succeeded)] at down
      simp only [Session.onWrite] at down
      split at down
      · exact absurd down up
      · rw [if_neg (Bool.eq_false_iff.mp succeeded)] at down
        exact absurd down up
  | read index result =>
    rw [Session.step] at taken
    split at taken
    · cases taken
    · rename_i side found
      cases result with
      | error errorCode =>
        have reported : errorCode = endOfFile := clean
        rw [reported] at taken ⊢
        exact ⟨index, side, rfl, found, taken⟩
      | ok bytes =>
        obtain ⟨filled, into, rfl⟩ := Option.map_eq_some_iff.mp taken
        obtain ⟨buffers, rfl⟩ := readInto_eq into
        rw [Session.onRead] at down
        split at down
        · exact absurd down up
        · rw [if_neg (Bool.eq_false_iff.mp ErrorCode.failed_none)] at down
          exact absurd down up

/-- A closed session forwards nothing. -/
theorem forwarded_of_disconnected (down : s.state = .disconnected)
    (taken : s.step settings event = some t) :
    t.state = .disconnected ∧ t.forwarded = s.forwarded := by
  have away : s.state ≠ .connected := by rw [down]; decide
  have opened : s.state ≠ .connecting := by rw [down]; decide
  have started : s.state ≠ .null := by rw [down]; decide
  cases event with
  | run =>
    cases taken
    rw [Session.asyncRunInternal, if_pos started]
    exact ⟨down, rfl⟩
  | cancel =>
    cases taken
    rw [Session.cancelInternal]
    simp only [down]
    exact ⟨trivial, trivial⟩
  | timer =>
    rw [Session.step] at taken
    split at taken
    · cases taken
    · cases taken
      rw [Session.cancelInternal]
      simp only [down]
      exact ⟨trivial, trivial⟩
  | resolved errorCode results =>
    rw [Session.step] at taken
    split at taken
    · cases taken
    · cases taken
      rw [Session.onDoResolveHost, if_pos opened]
      exact ⟨down, rfl⟩
  | opened errorCode =>
    rw [Session.step] at taken
    split at taken
    · cases taken
    · cases taken
      rw [Session.onOpen, if_pos opened]
      exact ⟨down, rfl⟩
  | read index result =>
    rw [Session.step] at taken
    split at taken
    · cases taken
    · cases result with
      | error errorCode =>
        rw [Session.readCompleted] at taken
        split at taken
        · cases taken
          rw [Session.onRead, if_pos away]
          exact ⟨down, rfl⟩
        · cases taken
      | ok bytes =>
        obtain ⟨filled, into, rfl⟩ := Option.map_eq_some_iff.mp taken
        obtain ⟨buffers, rfl⟩ := readInto_eq into
        rw [Session.onRead, if_pos away]
        exact ⟨down, rfl⟩
  | written index errorCode =>
    rw [Session.step] at taken
    split at taken
    · cases taken
    · cases taken
      simp only [Session.writeCompleted]
      split <;>
      · rw [Session.onWrite, if_pos away]
        exact ⟨down, rfl⟩

/-- **End of stream.** In a run without cancellations, timeouts and failures but ends of
stream, the session closes when a side reports its end. Then all that was read from that side
is written to the other, all that was read from the other side is written to this one except
for the write in flight, and nothing is forwarded from then on. -/
theorem closes_at_end_of_stream {event : Event} (run : Run (step settings) Clean {} s)
    (clean : Clean s event) (taken : s.step settings event = some t)
    (up : s.state ≠ .disconnected) (down : t.state = .disconnected) :
    ∃ index side, event = .read index (.error endOfFile) ∧ s.reads[index]? = some side ∧
      t.written side.other = t.received side ∧
      t.written side ++ t.pending side = t.received side.other ∧
      ∀ u, Reaches (step settings) t u → u.forwarded = t.forwarded := by
  have inv := inv_of_reaches run.reaches
  obtain ⟨index, side, isRead, found, completed⟩ := closed_by_endOfFile clean taken up down
  have connected : s.state = .connected :=
    (inv.connected_or_disconnected (.inl (ne_nil_of_taken found))).resolve_right up
  have phase := inv.phase
  simp only [Phase, connected] at phase
  obtain ⟨-, -, lanes⟩ := phase
  obtain ⟨lane, one⟩ := lanes side
  obtain ⟨opposite, -⟩ := lanes side.other
  have reading : 0 < s.reads.countP (· == side) :=
    countP_pos_iff.mpr ⟨side, mem_of_taken found, beq_self_eq_true side⟩
  have nothing : s.pending side.other = [] := by
    rw [outstanding] at one
    have idle : s.writes.countP (·.1 == side.other) = 0 := by omega
    have none : s.writes.filter (·.1 == side.other) = [] := by
      rw [filter_eq_nil_iff]
      exact countP_eq_zero.mp idle
    rw [pending, none]
    rfl
  have failed : endOfFile.failed = true := rfl
  rw [Session.readCompleted, if_pos failed, Option.some_inj, Session.onRead,
    if_neg (not_not.mpr connected), if_pos failed, Session.onError, if_pos failed,
    Session.onClose, if_neg (by simp [connected])] at completed
  refine ⟨index, side, isRead, found, ?_, ?_, fun u later => ?_⟩
  · have all := lane.written
    rw [nothing, append_nil, lane.forwarded] at all
    rw [← completed]
    exact all.symm
  · have all := opposite.written
    rw [opposite.forwarded, Side.other_other] at all
    rw [← completed]
    exact all.symm
  · have stays : u.state = .disconnected ∧ u.forwarded = t.forwarded := by
      refine later.invariant (p := fun v => v.state = .disconnected ∧
        v.forwarded = t.forwarded) ⟨down, rfl⟩ fun v e w before _ moved => ?_
      have after := forwarded_of_disconnected before.1 moved
      exact ⟨after.1, after.2.trans before.2⟩
    exact stays.2

/-- Two bytes of the upstream socket are being written. -/
def writeTwo : List Event := [.run, .resolved .none 1, .opened .none, .read 1 (.ok [7, 8])]

theorem writeTwo_isSome : (exec (step smallSettings) {} writeTwo).isSome = true := by
  decide

/-- A session that writes two bytes to its downstream socket. -/
def writingSession : Session :=
  (exec (step smallSettings) {} writeTwo).get writeTwo_isSome

/-- The downstream socket reports its end meanwhile. -/
def halfClose : List Event := writeTwo ++ [.read 0 (.error endOfFile)]

theorem halfClose_isSome : (exec (step smallSettings) {} halfClose).isSome = true := by
  decide

/-- A session that was closed by the end of one stream. -/
def halfClosedSession : Session :=
  (exec (step smallSettings) {} halfClose).get halfClose_isSome

/-- The session closes although the bytes of the other side are not written. -/
theorem halfClosedSession_loses :
    Run (step smallSettings) Clean {} halfClosedSession ∧
      halfClosedSession.state = .disconnected ∧
      halfClosedSession.received .upstream = [7, 8] ∧
      halfClosedSession.written .downstream = [] := by
  have good : GoodAlong (step smallSettings) Clean {} halfClose :=
    ⟨trivial, ⟨rfl, by decide⟩, rfl, trivial, rfl, trivial⟩
  have run : Run (step smallSettings) Clean {} halfClosedSession :=
    Run.of_exec good (Option.some_get halfClose_isSome).symm
  exact ⟨run, by decide, by decide, by decide⟩

theorem halfClosedSession_at_end_of_stream :
    writingSession.step smallSettings (.read 0 (.error endOfFile)) = some halfClosedSession ∧
      ∃ side, halfClosedSession.written side.other = halfClosedSession.received side := by
  have good : GoodAlong (step smallSettings) Clean {} writeTwo :=
    ⟨trivial, ⟨rfl, by decide⟩, rfl, trivial, trivial⟩
  have run : Run (step smallSettings) Clean {} writingSession :=
    Run.of_exec good (Option.some_get writeTwo_isSome).symm
  have taken : writingSession.step smallSettings (.read 0 (.error endOfFile)) =
      some halfClosedSession := rfl
  have clean : Clean writingSession (.read 0 (.error endOfFile)) := rfl
  obtain ⟨_, side, _, _, all, _⟩ :=
    closes_at_end_of_stream run clean taken (by decide) (by decide)
  exact ⟨taken, side, all⟩

end Rstream.Tunnel.Session
