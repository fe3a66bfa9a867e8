import Mathlib.Data.List.Range
import Rstream.Library.Runs

/-!
# The reader of a standard input that is a FIFO

A thread reads for the client, one operation after the other, and waits in `select` for data or
for a byte in a pipe of its own, which `close` writes. The caller and the thread share the
operation that is pending and two flags, under a lock: each section under the lock is one event,
and so is each system call, and these interleave in every order. The calls come from one strand,
so while `close` waits for the thread there are no others.

`reads_complete` is what every interleaving keeps. `close_returns` shows that `close` never waits
for input.
-/

namespace Rstream.Webtty

open Library List

/-- How a read fails. -/
inductive ReadError where
  | operationAborted
  | alreadyStarted
  | eof
  | system (errno : Int)
  deriving DecidableEq

namespace FifoReader

/-- `operation`: the number of its call, and the size of its buffer. -/
structure Operation where
  id : Nat
  size : Nat

/-- What an operation ends with: the bytes in its buffer. -/
abbrev Outcome := Except ReadError (List UInt8)

/-- Where the thread is. -/
inductive Worker where
  /-- In `m_ready.wait`. -/
  | waiting
  /-- Before a call of `read`, with `m_stopped` as it was when the operation was taken. -/
  | taken (op : Operation) (stopped : Bool)
  | selecting (op : Operation)
  /-- Before the second section under the lock. -/
  | done (op : Operation) (outcome : Outcome)
  | invoking (op : Operation) (outcome : Outcome)
  | returned

/-- Where a call of `close` is: it sets `m_stopped`, writes to the pipe, and joins the thread. -/
inductive Closing where
  | idle
  | waking
  | joining
  | joined
  deriving DecidableEq

/-- A handler that was invoked. Those of calls that are refused are invoked at once. -/
structure Completion where
  id : Nat
  outcome : Outcome
  refused : Bool

/-- A FIFO that is read from has `consumed` bytes less. -/
inductive ReadResult where
  | transferred (bytes : List UInt8)
  /-- `EINTR`, `EAGAIN` and `EWOULDBLOCK`. -/
  | again
  | failed (errno : Int)

inductive SelectResult where
  | ready
  | interrupted
  | failed (errno : Int)

inductive Event where
  | asyncReadSome (size : Nat)
  | close
  | wake
  | join
  | take
  /-- An operation that was stopped, or whose buffer is empty, ends without a call of `read`. -/
  | skip
  | read (result : ReadResult)
  | select (result : SelectResult)
  | settle
  | invoke

end FifoReader

open FifoReader

/-- `basic_fifo_reader`, with the calls, the handlers that were invoked and the bytes that were
read. -/
structure FifoReader where
  pending : Option Operation := none
  active : Bool := false
  stopped : Bool := false
  /-- There is a byte in the pipe. -/
  wakeup : Bool := false
  worker : Worker := .waiting
  closing : Closing := .idle
  calls : Nat := 0
  completions : List Completion := []
  consumed : List UInt8 := []

namespace FifoReader

/-- `async_read_some`. -/
def asyncReadSome (size : Nat) (s : FifoReader) : FifoReader :=
  if s.stopped ∨ s.pending.isSome ∨ s.active then
    { s with
      calls := s.calls + 1
      completions := s.completions ++
        [⟨s.calls, .error (if s.stopped then .operationAborted else .alreadyStarted), true⟩] }
  else { s with calls := s.calls + 1, pending := some ⟨s.calls, size⟩ }

/-- The first section of `run`. -/
def take (s : FifoReader) : FifoReader :=
  { s with
    pending := none
    active := s.pending.isSome
    worker := match s.pending with
      | none => .returned
      | some op => .taken op s.stopped }

/-- A call of `read` for an operation whose buffer is not empty. -/
def read (op : Operation) (s : FifoReader) : ReadResult → Option FifoReader
  | .transferred bytes =>
    if bytes.length ≤ op.size then
      some { s with
        consumed := s.consumed ++ bytes
        worker := .done op (if bytes = [] then .error .eof else .ok bytes) }
    else none
  | .again => some { s with worker := .selecting op }
  | .failed errno => some { s with worker := .done op (.error (.system errno)) }

/-- What follows a call of `select`. -/
def select (op : Operation) (s : FifoReader) : SelectResult → FifoReader
  | .ready =>
    { s with worker := if s.wakeup then .done op (.error .operationAborted) else .taken op false }
  | .interrupted => { s with worker := .taken op false }
  | .failed errno => { s with worker := .done op (.error (.system errno)) }

/-- The second section of `run`. -/
def settle (op : Operation) (outcome : Outcome) (s : FifoReader) : FifoReader :=
  { s with
    active := false
    worker := .invoking op (if s.stopped then .error .operationAborted else outcome) }

def invoke (op : Operation) (outcome : Outcome) (s : FifoReader) : FifoReader :=
  { s with
    worker := .waiting, completions := s.completions ++ [⟨op.id, outcome, false⟩] }

def step (s : FifoReader) (event : Event) : Option FifoReader :=
  match event, s.worker, s.closing with
  | .asyncReadSome size, _, .idle | .asyncReadSome size, _, .joined => some (s.asyncReadSome size)
  | .close, _, .idle => some { s with stopped := true, closing := .waking }
  | .close, _, .joined => some s
  | .wake, _, .waking => some { s with wakeup := true, closing := .joining }
  | .join, .returned, .joining => some { s with closing := .joined }
  | .take, .waiting, _ => if s.stopped ∨ s.pending.isSome then some s.take else none
  | .skip, .taken op true, _ => some { s with worker := .done op (.error .operationAborted) }
  | .skip, .taken op false, _ =>
    if op.size = 0 then some { s with worker := .done op (.ok []) } else none
  | .read result, .taken op false, _ => if op.size = 0 then none else s.read op result
  | .select result, .selecting op, _ => some (s.select op result)
  | .settle, .done op outcome, _ => some (s.settle op outcome)
  | .invoke, .invoking op outcome, _ => some (s.invoke op outcome)
  | _, _, _ => none

/-! ## What is kept -/

def Outcome.bytes : Outcome → List UInt8
  | .ok bytes => bytes
  | .error _ => []

def Worker.op : Worker → Option Operation
  | .taken op _ | .selecting op | .done op _ | .invoking op _ => some op
  | .waiting | .returned => none

/-- `m_active` is set. -/
def Worker.isActive : Worker → Bool
  | .taken .. | .selecting _ | .done .. => true
  | _ => false

/-- The bytes that were read for a handler that was not invoked. -/
def Worker.inHand : Worker → List UInt8
  | .done _ outcome | .invoking _ outcome => outcome.bytes
  | _ => []

/-- The thread will call `read` or `select`. -/
def Worker.isReading : Worker → Bool
  | .taken _ stopped => !stopped
  | .selecting _ => true
  | _ => false

/-- The operations whose handlers were not invoked, in the order of their calls. -/
def outstanding (s : FifoReader) : List Operation := s.worker.op.toList ++ s.pending.toList

/-- The operations that were not refused, in the order in which their handlers were invoked. -/
def accepted (s : FifoReader) : List Nat := (s.completions.filter (!·.refused)).map (·.id)

def delivered (s : FifoReader) : List UInt8 := s.completions.flatMap (·.outcome.bytes)

/-- Every call is outstanding or has ended once, and the bytes are delivered in their order. Bytes
are lost only when the reader is stopped. -/
structure Orderly (s : FifoReader) : Prop where
  once : (s.completions.map (·.id) ++ s.outstanding.map (·.id)).Perm (List.range s.calls)
  ordered : (s.accepted ++ s.outstanding.map (·.id)).Pairwise (· < ·)
  active : s.active = s.worker.isActive
  single : s.active = true → s.pending = none
  prefix_ : s.delivered ++ s.worker.inHand <+: s.consumed
  lossless : s.stopped = false ∨ s.worker.isReading = true →
    s.delivered ++ s.worker.inHand = s.consumed
  stopping : s.closing ≠ .idle → s.stopped = true
  waking : s.closing = .joining → s.wakeup = true
  returned : s.worker = .returned → s.stopped = true ∧ s.pending = none
  joined : s.closing = .joined → s.worker = .returned

variable {s t : FifoReader} {op : Operation} {outcome : Outcome}

theorem orderly_start : Orderly {} where
  once := .refl _
  ordered := .nil
  active := rfl
  single := nofun
  prefix_ := prefix_rfl
  lossless _ := rfl
  stopping := nofun
  waking := nofun
  returned := nofun
  joined := nofun

namespace Orderly

variable (orderly : s.Orderly)

include orderly

theorem lt_calls {id : Nat} (mem : id ∈ s.accepted ++ s.outstanding.map (·.id)) : id < s.calls := by
  refine mem_range.mp (orderly.once.mem_iff.mp ?_)
  refine mem_append.mpr ((mem_append.mp mem).imp_left fun ended => ?_)
  exact map_subset _ (filter_subset_self _) ended

/-- The thread goes on with the same operation. -/
theorem work {worker : Worker} (same : worker.op = s.worker.op)
    (active : worker.isActive = s.worker.isActive) (inHand : worker.inHand = s.worker.inHand)
    (reading : worker.isReading = true → s.worker.isReading = true)
    (running : worker.isActive = true) : ({ s with worker } : FifoReader).Orderly where
  once := by
    rw [outstanding, same]
    exact orderly.once
  ordered := by
    rw [outstanding, same]
    exact orderly.ordered
  active := orderly.active.trans active.symm
  single := orderly.single
  prefix_ := inHand ▸ orderly.prefix_
  lossless kept := (congrArg (s.delivered ++ ·) inHand).trans
    (orderly.lossless (kept.imp_right reading))
  stopping := orderly.stopping
  waking := orderly.waking
  returned ended := by
    subst ended
    cases running
  joined ended := by
    rw [active, orderly.joined ended] at running
    cases running

theorem asyncReadSome (size : Nat) : (s.asyncReadSome size).Orderly := by
  unfold FifoReader.asyncReadSome
  split
  · refine { orderly with
      once := ?_, ordered := ?_, prefix_ := ?_, lossless := fun kept => ?_ }
    · rw [range_succ, map_append, append_assoc]
      exact (perm_append_comm.append_left _).trans
        (append_assoc _ _ _ ▸ orderly.once.append_right [s.calls])
    · simpa [accepted, outstanding] using orderly.ordered
    · simpa [delivered, Outcome.bytes] using orderly.prefix_
    · simpa [delivered, Outcome.bytes] using orderly.lossless kept
  · rename_i free
    obtain ⟨unstopped, absent, idle⟩ : s.stopped = false ∧ s.pending = none ∧ s.active = false := by
      simpa using free
    have later : ({ s with
        calls := s.calls + 1, pending := some ⟨s.calls, size⟩ } : FifoReader).outstanding =
          s.outstanding ++ [⟨s.calls, size⟩] := by
      simp [outstanding, absent]
    refine { orderly with once := ?_, ordered := ?_, single := ?_, returned := fun ended => ?_ }
    · rw [later, map_append, range_succ, ← append_assoc]
      exact orderly.once.append_right [s.calls]
    · rw [later, map_append, ← append_assoc]
      refine pairwise_append.mpr ⟨orderly.ordered, pairwise_singleton _ _, ?_⟩
      intro first mem second last
      obtain rfl := mem_singleton.mp last
      exact orderly.lt_calls mem
    · intro busy
      cases idle.symm.trans busy
    · cases unstopped.symm.trans (orderly.returned ended).1

theorem take (waits : s.worker = .waiting) (woken : s.stopped = true ∨ s.pending.isSome = true) :
    s.take.Orderly := by
  have same : s.take.outstanding = s.outstanding := by
    cases pending : s.pending <;> simp [outstanding, FifoReader.take, Worker.op, waits, pending]
  have empty : s.take.worker.inHand = s.worker.inHand := by
    rw [waits]
    cases pending : s.pending <;> simp [FifoReader.take, Worker.inHand, pending]
  refine { orderly with
    once := same.symm ▸ orderly.once, ordered := same.symm ▸ orderly.ordered
    active := ?_, single := fun _ => rfl
    prefix_ := empty.symm ▸ orderly.prefix_
    lossless := fun kept => ?_, returned := fun ended => ⟨?_, rfl⟩, joined := fun ended => ?_ }
  · cases pending : s.pending <;> simp [FifoReader.take, Worker.isActive, pending]
  · refine empty.symm ▸ orderly.lossless (.inl ?_)
    rcases kept with kept | reading
    · exact kept
    · cases pending : s.pending with
      | none => simp [FifoReader.take, Worker.isReading, pending] at reading
      | some op => simpa [FifoReader.take, Worker.isReading, pending] using reading
  · refine woken.resolve_right fun some => ?_
    obtain ⟨op, pending⟩ := Option.isSome_iff_exists.mp some
    simp [FifoReader.take, pending] at ended
  · rw [orderly.joined ended] at waits
    cases waits

theorem read {result : ReadResult} (taken : s.worker = .taken op false)
    (called : s.read op result = some t) : t.Orderly := by
  cases result with
  | transferred bytes =>
    obtain ⟨-, ⟨⟩⟩ := Option.ite_none_right_eq_some.mp called
    have same : Outcome.bytes (if bytes = [] then .error .eof else .ok bytes) = bytes := by
      split
      · rename_i empty
        exact empty.symm
      · rfl
    have kept : s.delivered ++ bytes = s.consumed ++ bytes := by
      have lossless := orderly.lossless (.inr (by rw [taken]; rfl))
      rw [taken] at lossless
      exact congrArg (· ++ bytes) ((append_nil _).symm.trans lossless)
    have once := orderly.once
    have ordered := orderly.ordered
    rw [outstanding, taken] at once ordered
    refine { orderly with
      once, ordered, active := ?_
      prefix_ := ?_, lossless := fun _ => ?_, returned := nofun, joined := fun ended => ?_ }
    · rw [orderly.active, taken]
      rfl
    · exact (congrArg (s.delivered ++ ·) same).trans kept ▸ prefix_rfl
    · exact (congrArg (s.delivered ++ ·) same).trans kept
    · rw [orderly.joined ended] at taken
      cases taken
  | again | failed =>
    cases called
    refine orderly.work ?_ ?_ ?_ ?_ rfl <;> simp [taken, Worker.op, Worker.isActive,
      Worker.inHand, Worker.isReading, Outcome.bytes]

theorem select (result : SelectResult) (selecting : s.worker = .selecting op) :
    (s.select op result).Orderly := by
  cases result with
  | ready =>
    refine orderly.work ?_ ?_ ?_ ?_ ?_ <;> split <;> simp [selecting, Worker.op,
      Worker.isActive, Worker.inHand, Worker.isReading, Outcome.bytes]
  | interrupted | failed =>
    refine orderly.work ?_ ?_ ?_ ?_ rfl <;> simp [selecting, Worker.op, Worker.isActive,
      Worker.inHand, Worker.isReading, Outcome.bytes]

theorem settle (done : s.worker = .done op outcome) : (s.settle op outcome).Orderly := by
  have once := orderly.once
  have ordered := orderly.ordered
  have before := orderly.prefix_
  rw [outstanding, done] at once ordered
  rw [done] at before
  refine { orderly with
    once, ordered, active := rfl, single := nofun
    prefix_ := ?_, lossless := fun kept => ?_, returned := nofun, joined := fun ended => ?_ }
  · cases stopped : s.stopped with
    | false => simpa [FifoReader.settle, Worker.inHand, delivered, stopped] using before
    | true =>
      have shorter := (prefix_append s.delivered (Outcome.bytes outcome)).trans before
      simpa [FifoReader.settle, Worker.inHand, delivered, stopped, Outcome.bytes] using shorter
  · have running : s.stopped = false := kept.resolve_right (by simp [FifoReader.settle,
      Worker.isReading])
    have lossless := orderly.lossless (.inl running)
    rw [done] at lossless
    simpa [FifoReader.settle, Worker.inHand, delivered, running] using lossless
  · rw [orderly.joined ended] at done
    cases done

theorem invoke (invoking : s.worker = .invoking op outcome) : (s.invoke op outcome).Orderly := by
  have once := orderly.once
  have ordered := orderly.ordered
  have before := orderly.prefix_
  have lossless := orderly.lossless
  rw [outstanding, invoking] at once ordered
  rw [invoking] at before lossless
  have same : (s.invoke op outcome).delivered ++ [] = s.delivered ++ outcome.bytes := by
    simp [delivered, FifoReader.invoke]
  refine { orderly with
    once := ?_, ordered := ?_, active := ?_
    prefix_ := same.symm ▸ before
    lossless := fun kept => same.trans (lossless (kept.imp_right nofun))
    returned := nofun, joined := fun ended => ?_ }
  · simpa [outstanding, FifoReader.invoke, Worker.op] using once
  · simpa [outstanding, accepted, FifoReader.invoke, Worker.op] using ordered
  · rw [FifoReader.invoke, orderly.active, invoking]
    rfl
  · rw [orderly.joined ended] at invoking
    cases invoking

theorem step {event : Event} (taken : s.step event = some t) : t.Orderly := by
  unfold FifoReader.step at taken
  split at taken
  · cases taken
    exact orderly.asyncReadSome _
  · cases taken
    exact orderly.asyncReadSome _
  · rename_i idle
    cases taken
    exact { orderly with
      lossless := fun kept => orderly.lossless (kept.imp_left nofun), stopping := fun _ => rfl
      waking := nofun, returned := fun ended => ⟨rfl, (orderly.returned ended).2⟩
      joined := nofun }
  · cases taken
    exact orderly
  · rename_i waking
    cases taken
    exact { orderly with
      stopping := fun _ => orderly.stopping (by rw [waking]; nofun)
      waking := fun _ => rfl, joined := nofun }
  · rename_i returned joining
    cases taken
    exact { orderly with
      stopping := fun _ => orderly.stopping (by rw [joining]; nofun)
      waking := nofun, joined := fun _ => returned }
  · rename_i waits
    obtain ⟨woken, ⟨⟩⟩ := Option.ite_none_right_eq_some.mp taken
    exact orderly.take waits woken
  · rename_i op stopped
    cases taken
    refine orderly.work ?_ ?_ ?_ ?_ rfl <;> simp [stopped, Worker.op, Worker.isActive,
      Worker.inHand, Worker.isReading, Outcome.bytes]
  · rename_i op begun
    obtain ⟨-, ⟨⟩⟩ := Option.ite_none_right_eq_some.mp taken
    refine orderly.work ?_ ?_ ?_ ?_ rfl <;> simp [begun, Worker.op, Worker.isActive,
      Worker.inHand, Worker.isReading, Outcome.bytes]
  · rename_i begun
    obtain ⟨-, called⟩ := Option.ite_none_left_eq_some.mp taken
    exact orderly.read begun called
  · rename_i selecting
    cases taken
    exact orderly.select _ selecting
  · rename_i done
    cases taken
    exact orderly.settle done
  · rename_i invoking
    cases taken
    exact orderly.invoke invoking
  · cases taken

end Orderly

theorem orderly_of_reaches (run : Reaches step {} s) : s.Orderly :=
  run.invariant orderly_start fun _ _ _ orderly _ taken => orderly.step taken

theorem Orderly.ended (orderly : s.Orderly) (joined : s.closing = .joined) :
    s.outstanding = [] := by
  have returned := orderly.joined joined
  rw [outstanding, returned, (orderly.returned returned).2]
  rfl

/-- **In every interleaving** each call of `async_read_some` is outstanding or its handler was
invoked, once; the handlers of the calls that were not refused are invoked in the order of the
calls; what they receive is what was read, in its order, and all of it unless the reader was
stopped; and when `close` has returned, no call is outstanding and the thread is gone. -/
theorem reads_complete (run : Reaches step {} s) :
    (s.completions.map (·.id) ++ s.outstanding.map (·.id)).Perm (range s.calls) ∧
      (s.accepted ++ s.outstanding.map (·.id)).Pairwise (· < ·) ∧
      s.delivered <+: s.consumed ∧
      (s.stopped = false → s.delivered ++ s.worker.inHand = s.consumed) ∧
      (s.closing = .joined → s.outstanding = [] ∧ s.worker = .returned) := by
  have orderly := orderly_of_reaches run
  refine ⟨orderly.once, orderly.ordered, (prefix_append _ _).trans orderly.prefix_,
    fun running => orderly.lossless (.inl running), fun joined => ?_⟩
  exact ⟨orderly.ended joined, orderly.joined joined⟩

/-- The thread reads once and then waits for more, and `close` wakes it. -/
def blockedRun : List Event :=
  [.asyncReadSome 4, .take, .read (.transferred [104, 105]), .settle, .invoke, .asyncReadSome 8, .take,
    .read .again, .asyncReadSome 1, .close, .wake]

def closedRun : List Event :=
  blockedRun ++ [.select .ready, .settle, .invoke, .take, .join]

theorem reads_complete_closedRun :
    ((exec step {} closedRun).getD {}).outstanding = [] ∧
      ((exec step {} closedRun).getD {}).worker = .returned := by
  have run : Reaches step {} ((exec step {} closedRun).getD {}) :=
    .of_exec_getD closedRun (by decide)
  exact (reads_complete run).2.2.2.2 (by decide)

/-! ## What `close` waits for -/

/-- The thread goes on, and `close` with it, while no input arrives. -/
def Silent (_ : FifoReader) : Event → Prop
  | .asyncReadSome _ | .close => False
  | .read result => result = .again
  | .select result => result = .ready
  | _ => True

/-- A reader whose `close` waits for the thread. -/
structure Joining (s : FifoReader) : Prop where
  stopped : s.stopped = true
  wakeup : s.wakeup = true
  closing : s.closing = .joining

/-- How far the thread is from its end. -/
def Worker.rank : Worker → Nat
  | .returned => 0
  | .waiting => 1
  | .invoking .. => 2
  | .done .. => 3
  | .selecting _ => 4
  | .taken .. => 5

/-- An operation that is pending is still to be taken. -/
def rank (s : FifoReader) : Nat := s.worker.rank + 5 * s.pending.toList.length

theorem Joining.goes_on (joining : s.Joining) (running : s.worker ≠ .returned) :
    ∃ event t, Silent s event ∧ s.step event = some t ∧ t.Joining ∧ t.rank < s.rank := by
  obtain ⟨stopped, wakeup, closing⟩ := joining
  rcases worker : s.worker with _ | ⟨op, _ | _⟩ | op | ⟨op, outcome⟩ | ⟨op, outcome⟩ | _
  · refine ⟨.take, s.take, trivial, by simp [step, worker, stopped], ⟨stopped, wakeup, closing⟩, ?_⟩
    cases pending : s.pending <;> simp [rank, FifoReader.take, Worker.rank, worker, pending]
  · by_cases empty : op.size = 0
    · exact ⟨.skip, { s with worker := .done op (.ok []) }, trivial, by simp [step, worker, empty],
        ⟨stopped, wakeup, closing⟩, by simp [rank, Worker.rank, worker]⟩
    · exact ⟨.read .again, { s with worker := .selecting op }, rfl,
        by simp [step, worker, empty, FifoReader.read], ⟨stopped, wakeup, closing⟩,
        by simp [rank, Worker.rank, worker]⟩
  · exact ⟨.skip, { s with worker := .done op (.error .operationAborted) }, trivial,
      by simp [step, worker], ⟨stopped, wakeup, closing⟩, by simp [rank, Worker.rank, worker]⟩
  · exact ⟨.select .ready, s.select op .ready, rfl, by simp [step, worker],
      ⟨stopped, wakeup, closing⟩,
      by simp [rank, FifoReader.select, Worker.rank, worker, wakeup]⟩
  · exact ⟨.settle, s.settle op outcome, trivial, by simp [step, worker],
      ⟨stopped, wakeup, closing⟩, by simp only [rank, FifoReader.settle, Worker.rank, worker]; omega⟩
  · exact ⟨.invoke, s.invoke op outcome, trivial, by simp [step, worker],
      ⟨stopped, wakeup, closing⟩, by simp only [rank, FifoReader.invoke, Worker.rank, worker]; omega⟩
  · exact absurd worker running

/-- By induction on the steps that the thread has before it. -/
theorem Joining.returns {s : FifoReader} (joining : s.Joining) :
    ∃ t, Run step Silent s t ∧ t.closing = .joined := by
  by_cases returned : s.worker = .returned
  · have taken : s.step .join = some { s with closing := .joined } := by
      simp [step, returned, joining.closing]
    have silent : s.Silent .join := trivial
    exact ⟨_, Run.refl.tail silent taken, rfl⟩
  · obtain ⟨event, t, silent, taken, next, less⟩ := joining.goes_on returned
    obtain ⟨last, run, joined⟩ := next.returns
    exact ⟨last, (Run.refl.tail silent taken).trans run, joined⟩
termination_by s.rank

/-- **`close` never waits for input**: from every state in which it waits for the thread, the
thread comes to its end and `close` returns, even when the descriptor is never ready. -/
theorem close_returns (run : Reaches step {} s) (waits : s.closing = .joining) :
    ∃ t, Run step Silent s t ∧ t.closing = .joined ∧
      (t.completions.map (·.id)).Perm (range t.calls) := by
  have orderly := orderly_of_reaches run
  have stopped := orderly.stopping (by rw [waits]; nofun)
  obtain ⟨t, ends, joined⟩ := Joining.returns ⟨stopped, orderly.waking waits, waits⟩
  have after := orderly_of_reaches (run.trans ends.reaches)
  have once := after.once
  rw [after.ended joined, map_nil, append_nil] at once
  exact ⟨t, ends, joined, once⟩

theorem close_returns_blockedRun :
    ∃ t, Run step Silent ((exec step {} blockedRun).getD {}) t ∧ t.closing = .joined ∧
      (t.completions.map (·.id)).Perm (range t.calls) :=
  close_returns (.of_exec_getD blockedRun (by decide)) (by decide)

end FifoReader

end Rstream.Webtty
