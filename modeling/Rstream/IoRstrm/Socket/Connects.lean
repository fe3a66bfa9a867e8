import Mathlib.Algebra.Order.Ring.Nat
import Rstream.IoRstrm.Socket.Effects

/-!
# Connect operations of a socket

Every effect concerns at most one operation; for the others nothing changes that their
account reads (`Alike`). So a step keeps `WellFormed`, and the run of a socket completes
every connect operation exactly once.

`outstanding` counts what is still to come for an operation: its turn on the strand and
the steps after it. It never grows, and every delivery of the operation's own makes it
smaller, so the operation is completed after at most four of them.
-/

namespace Rstream.IoRstrm.Socket

open List Nat
open Function (update update_eq_self update_idem update_of_ne update_self)
open Library

variable {s t : Socket}

/-! ## The other operations -/

/-- Nothing changes for an operation. -/
structure Alike (s t : Socket) (op : Nat) : Prop where
  ops : t.ops op = s.ops op
  known : t.nextOp ≤ op ↔ s.nextOp ≤ op
  current : t.connectOp = some op ↔ s.connectOp = some op
  invocations : t.invocations op = s.invocations op
  queued : t.queued op = s.queued op
  cancels : .cancelConnect op ∈ t.tasks → .cancelConnect op ∈ s.tasks
  stopped : (s.ops op).completed = false → t.Stopped op → s.Stopped op

variable {op : Nat} {outputs : List SocketOutput} {work : SocketWork} {event : Event}

theorem Alike.lt_iff (alike : Alike s t op) : op < t.nextOp ↔ op < s.nextOp := by
  rw [← Nat.not_le, alike.known, Nat.not_le]

theorem Sound.of_alike (sound : s.Sound op) (alike : Alike s t op) : t.Sound op where
  unused beyond := by
    rw [alike.ops]
    exact sound.unused (alike.known.mp beyond)
  invoked := by
    rw [alike.invocations, alike.ops]
    exact sound.invoked
  once := by
    rw [alike.queued]
    exact sound.once
  ready pending := by
    rw [alike.queued] at pending
    rw [alike.lt_iff, Ne, alike.current, alike.ops]
    exact sound.ready pending
  current held := by
    rw [alike.lt_iff, alike.ops]
    exact sound.current (alike.current.mp held)
  awaited bound pending := by
    rw [alike.lt_iff] at bound
    rw [alike.ops] at pending
    rw [alike.current, alike.queued]
    exact sound.awaited bound pending
  cancels mem := by
    rw [alike.ops]
    exact sound.cancels (alike.cancels mem)
  refused failed := by
    rw [alike.ops] at failed ⊢
    exact sound.refused failed
  stopped pending stopped := by
    rw [alike.ops] at pending ⊢
    rw [alike.current]
    exact sound.stopped pending (alike.stopped pending stopped)

/-- The outputs are not about an operation that is not completed. -/
def Silent (s : Socket) (outputs : List SocketOutput) (op : Nat) : Prop :=
  ∀ output ∈ outputs, output.completes op = false ∧
    ((s.ops op).completed = false → output.stops op = false)

theorem invocations_append (log : t.log = s.log ++ outputs) (op : Nat) :
    t.invocations op = s.invocations op + outputs.countP (SocketOutput.completes op) := by
  rw [invocations, log, countP_append, invocations]

theorem stopped_append (log : t.log = s.log ++ outputs) (op : Nat) :
    t.Stopped op ↔ s.Stopped op ∨ outputs.any (SocketOutput.stops op) = true := by
  rw [Stopped, log, any_append, Bool.or_eq_true, Stopped]

theorem Silent.invocations (silent : s.Silent outputs op) (log : t.log = s.log ++ outputs) :
    t.invocations op = s.invocations op := by
  have none : outputs.countP (SocketOutput.completes op) = 0 := by
    rw [countP_eq_zero]
    intro output mem
    rw [(silent output mem).1]
    exact Bool.false_ne_true
  rw [invocations_append log, none, Nat.add_zero]

theorem Silent.stopped (silent : s.Silent outputs op) (log : t.log = s.log ++ outputs)
    (pending : (s.ops op).completed = false) (stopped : t.Stopped op) : s.Stopped op := by
  rcases (stopped_append log op).mp stopped with before | now
  · exact before
  · obtain ⟨output, mem, stops⟩ := any_eq_true.mp now
    rw [(silent output mem).2 pending] at stops
    cases stops

/-- The account of the queue when work is taken. -/
theorem queued_of_taken {index : Nat} (taken : s.tasks[index]? = some work) (op : Nat) :
    s.queued op = (s.tasks.eraseIdx index).countP (SocketWork.connects op) +
      if work.connects op then 1 else 0 :=
  countP_of_taken taken _

/-- A step that takes the work of another operation. -/
theorem Alike.of_taken {index : Nat} (taken : s.tasks[index]? = some work)
    (other : work.connects op = false) (silent : s.Silent outputs op)
    (tasks : t.tasks = s.tasks.eraseIdx index) (log : t.log = s.log ++ outputs)
    (ops : t.ops op = s.ops op) (nextOp : t.nextOp = s.nextOp)
    (current : t.connectOp = some op ↔ s.connectOp = some op) : Alike s t op where
  ops := ops
  known := by rw [nextOp]
  current := current
  invocations := silent.invocations log
  queued := by
    rw [queued_of_taken taken, other, Socket.queued, tasks]
    rfl
  cancels mem := by
    rw [tasks] at mem
    exact mem_of_mem_eraseIdx mem
  stopped := silent.stopped log

/-- A step that takes no work. -/
theorem Alike.of_untaken (silent : s.Silent outputs op) (tasks : t.tasks = s.tasks)
    (log : t.log = s.log ++ outputs) (ops : t.ops op = s.ops op) (nextOp : t.nextOp = s.nextOp)
    (current : t.connectOp = some op ↔ s.connectOp = some op) :
    Alike s t op where
  ops := ops
  known := by rw [nextOp]
  current := current
  invocations := silent.invocations log
  queued := by rw [Socket.queued, tasks, Socket.queued]
  cancels mem := tasks ▸ mem
  stopped := silent.stopped log

theorem Alike.of_dispatched (other : work.connects op = false)
    (uncancelled : work ≠ .cancelConnect op) (tasks : t.tasks = s.tasks ++ [work])
    (log : t.log = s.log) (ops : t.ops op = s.ops op) (known : t.nextOp ≤ op ↔ s.nextOp ≤ op)
    (current : t.connectOp = s.connectOp) : Alike s t op where
  ops := ops
  known := known
  current := by rw [current]
  invocations := by rw [Socket.invocations, log, Socket.invocations]
  queued := by
    rw [Socket.queued, tasks, countP_append, countP_singleton, other]
    rfl
  cancels mem := by
    rw [tasks, mem_append, mem_singleton] at mem
    exact mem.resolve_right (Ne.symm uncancelled)
  stopped _ stopped := by
    rw [Stopped, log] at stopped
    exact stopped

/-! ## Refusing an operation -/

/-- The reservation of an operation is given back. -/
def releases (s : Socket) (op : Nat) : Bool :=
  (s.ops op).reserved && decide (s.state = .null) && s.isStateNonNull

theorem releaseConnectReservation_spec (s : Socket) (op : Nat) :
    s.releaseConnectReservation op =
      { s with
        isStateNonNull := s.isStateNonNull && !s.releases op
        ops := update s.ops op
          { s.ops op with reserved := (s.ops op).reserved && !s.releases op } } := by
  have unchanged : s.releases op = false →
      s = { s with
        isStateNonNull := s.isStateNonNull && !s.releases op
        ops := update s.ops op
          { s.ops op with reserved := (s.ops op).reserved && !s.releases op } } := by
    intro kept
    rw [kept, Bool.not_false, Bool.and_true, Bool.and_true, update_eq_self]
  rw [releaseConnectReservation]
  split
  · rename_i kept
    apply unchanged
    rw [releases]
    rcases kept with unreserved | open'
    · rw [unreserved, Bool.false_and, Bool.false_and]
    · rw [decide_eq_false open', Bool.and_false, Bool.false_and]
  · rename_i held
    rw [not_or, Bool.not_eq_false, not_not] at held
    split
    · rename_i set
      have released : s.releases op = true := by
        rw [releases, held.1, held.2, set]
        rfl
      rw [released, Bool.not_true, Bool.and_false, Bool.and_false]
      rfl
    · rename_i unset
      rw [Bool.not_eq_true] at unset
      apply unchanged
      rw [releases, unset, Bool.and_false]

/-- What it means to refuse an operation. -/
theorem refuse_eq (absent : s.connectOp ≠ some op) (errorCode : ErrorCode) :
    s.refuse op errorCode =
      { s with
        isStateNonNull := s.isStateNonNull && !s.releases op
        ops := update s.ops op
          { s.ops op with
            completed := true, reserved := (s.ops op).reserved && !s.releases op }
        log := s.log ++ if (s.ops op).completed then [] else [.completed op errorCode] } := by
  rw [refuse, releaseConnectReservation_spec]
  cases completed : (s.ops op).completed with
  | true =>
    rw [completeConnect_of_completed (by simp only [update_self, completed])]
    simp only [if_true, append_nil, completed]
  | false =>
    rw [completeConnect_of_pending (by simp only [update_self, completed])]
    simp only [update_self, update_idem, absent, if_false,
      Bool.false_eq_true]

/-! ## Steps -/

theorem wellFormed_initial : WellFormed {} where
  sound _ :=
    { unused := fun _ => rfl
      invoked := rfl
      once := zero_le 1
      ready := fun pending => absurd pending (Nat.lt_irrefl 0)
      current := fun held => nomatch held
      awaited := fun bound => absurd bound (not_lt_zero _)
      cancels := fun mem => absurd mem not_mem_nil
      refused := fun failed => nomatch failed
      stopped := fun _ stopped => nomatch stopped }
  connecting := ⟨nofun, nofun⟩
  single _ held := nomatch held
  idle _ := rfl

namespace WellFormed

section

variable (wellFormed : s.WellFormed)

include wellFormed

/-- A step that changes neither the operation in `m_connect_op` nor what is in flight. -/
theorem of_alike (state : t.state = s.state)
    (connectOp : t.connectOp = s.connectOp) (inFlight : t.inFlight = s.inFlight)
    (sound : ∀ op, t.Sound op) : t.WellFormed where
  sound := sound
  connecting := by
    rw [state, connectOp]
    exact wellFormed.connecting
  single op held := by
    rw [connectOp] at held
    rw [inFlight]
    exact wellFormed.single op held
  idle absent := by
    rw [connectOp] at absent
    rw [inFlight]
    exact wellFormed.idle absent

theorem asyncConnect (type : SocketType) (endpoint : Endpoint) :
    (s.asyncConnect type endpoint).WellFormed := by
  refine wellFormed.of_alike rfl rfl rfl fun op => ?_
  by_cases same : op = s.nextOp
  · subst same
    have sound := wellFormed.sound s.nextOp
    have empty := sound.unused (Nat.le_refl _)
    have unheld : s.connectOp ≠ some s.nextOp :=
      fun held => Nat.lt_irrefl _ (sound.current held).1
    have unqueued : s.queued s.nextOp = 0 :=
      Nat.eq_zero_of_not_pos fun pending => Nat.lt_irrefl _ (sound.ready pending).1
    have queued : (s.asyncConnect type endpoint).queued s.nextOp = 1 := by
      rw [Socket.queued, Socket.asyncConnect, countP_append]
      change s.queued s.nextOp + _ = 1
      rw [unqueued, countP_singleton, SocketWork.connects, decide_eq_true rfl]
      rfl
    have ops : (s.asyncConnect type endpoint).ops s.nextOp =
        { reserved := !(s.initiationError endpoint).failed
          initiationError := s.initiationError endpoint } :=
      update_self ..
    constructor
    · exact fun beyond => absurd beyond (not_succ_le_self _)
    · have invoked := sound.invoked
      rw [empty] at invoked
      rw [ops]
      exact invoked
    · exact Nat.le_of_eq queued
    · rw [ops]
      exact fun _ => ⟨lt_succ_self _, unheld, fun done => nomatch done⟩
    · exact fun held => absurd held unheld
    · exact fun _ _ => .inr (queued ▸ Nat.one_pos)
    · intro mem
      rcases mem_append.mp mem with before | now
      · have cancelled := sound.cancels before
        rw [empty] at cancelled
        cases cancelled
      · exact absurd (mem_singleton.mp now) nofun
    · rw [ops]
      intro failed
      rw [failed]
      rfl
    · rw [ops]
      intro _ stopped
      exact absurd (sound.stopped (by rw [empty]) stopped).1 unheld
  · have other : SocketWork.connects op (.asyncConnectInternal type endpoint s.nextOp) = false :=
      decide_eq_false same
    refine (wellFormed.sound op).of_alike (.of_dispatched other nofun rfl rfl
      (update_of_ne same _ _) ?_ rfl)
    change s.nextOp + 1 ≤ op ↔ s.nextOp ≤ op
    omega

theorem close : s.close.WellFormed := by
  refine wellFormed.of_alike rfl rfl rfl fun op => (wellFormed.sound op).of_alike ?_
  have other : SocketWork.connects op .closeInternal = false := rfl
  exact .of_dispatched other nofun rfl rfl rfl Iff.rfl rfl

theorem cancel {cancelled : Nat} (known : cancelled < s.nextOp) :
    (s.cancel cancelled).WellFormed := by
  refine wellFormed.of_alike rfl rfl rfl fun op => ?_
  have other : SocketWork.connects op (.cancelConnect cancelled) = false := rfl
  by_cases same : op = cancelled
  · subst same
    have sound := wellFormed.sound op
    have ops : (s.cancel op).ops op = { s.ops op with cancelled := true } :=
      update_self ..
    have queued : (s.cancel op).queued op = s.queued op := by
      rw [Socket.queued, Socket.cancel, countP_append, countP_singleton, other]
      rfl
    constructor
    · exact fun beyond => absurd beyond (Nat.not_le_of_lt known)
    · rw [ops]
      exact sound.invoked
    · exact queued ▸ sound.once
    · rw [ops, queued]
      intro pending
      obtain ⟨bound, absent, -⟩ := sound.ready pending
      exact ⟨bound, absent, fun _ => rfl⟩
    · rw [ops]
      exact sound.current
    · rw [ops, queued]
      exact sound.awaited
    · rw [ops]
      exact fun _ => rfl
    · rw [ops]
      exact sound.refused
    · rw [ops]
      exact sound.stopped
  · refine (wellFormed.sound op).of_alike (.of_dispatched other ?_ rfl rfl
      (update_of_ne same _ _) Iff.rfl rfl)
    intro equal
    exact same (SocketWork.cancelConnect.inj equal).symm

end

variable {index : Nat}

section

variable (wellFormed : s.WellFormed)

include wellFormed

theorem ignored {work : SocketWork} {output : SocketOutput}
    (taken : s.tasks[index]? = some work)
    (late : work = .closeInternal ∧ output = .closing none ∧ s.state = .null ∨
      ∃ op, work = .cancelConnect op ∧ output = .cancelling op ∧ (s.ops op).completed = true) :
    (s.take index [output]).WellFormed := by
  refine wellFormed.of_alike rfl rfl rfl fun op => ?_
  have sound := wellFormed.sound op
  rcases late with ⟨rfl, rfl, -⟩ | ⟨cancelled, rfl, rfl, completed⟩
  · refine sound.of_alike (.of_taken taken rfl ?_ rfl rfl rfl rfl Iff.rfl)
    intro output mem
    rw [mem_singleton.mp mem]
    exact ⟨rfl, fun _ => rfl⟩
  · refine sound.of_alike (.of_taken taken rfl ?_ rfl rfl rfl rfl Iff.rfl)
    intro output mem
    rw [mem_singleton.mp mem]
    refine ⟨rfl, fun pending => decide_eq_false ?_⟩
    rintro rfl
    rw [completed] at pending
    cases pending

theorem refuse {refused : Nat} {work : SocketWork}
    {outputs : List SocketOutput} {errorCode : ErrorCode} (taken : s.tasks[index]? = some work)
    (own : (∃ type endpoint, work = .asyncConnectInternal type endpoint refused ∧ outputs = []) ∨
      work = .cancelConnect refused ∧ outputs = [.cancelling refused] ∧
        (s.ops refused).completed = false) (absent : s.connectOp ≠ some refused) :
    ((s.take index outputs).refuse refused errorCode).WellFormed := by
  have outputs_eq : outputs = [] ∨ outputs = [.cancelling refused] := by
    rcases own with ⟨type, endpoint, -, rfl⟩ | ⟨-, rfl, -⟩
    · exact .inl rfl
    · exact .inr rfl
  rw [refuse_eq (s := s.take index outputs) absent]
  refine wellFormed.of_alike rfl rfl rfl fun op => ?_
  have sound := wellFormed.sound op
  by_cases same : op = refused
  · subst same
    have bound : op < s.nextOp := by
      rcases own with ⟨type, endpoint, rfl, -⟩ | ⟨rfl, -⟩
      · exact (sound.ready (queued_pos taken (decide_eq_true rfl))).1
      · refine Nat.lt_of_not_le fun beyond => ?_
        have cancelled := sound.cancels (mem_of_taken taken)
        rw [sound.unused beyond] at cancelled
        cases cancelled
    constructor
    · exact fun beyond => absurd beyond (Nat.not_le_of_lt bound)
    · have uncounted : outputs.countP (SocketOutput.completes op) = 0 := by
        rcases outputs_eq with rfl | rfl <;> rfl
      simp only [update_self, if_true]
      rw [invocations_append (append_assoc ..), sound.invoked, countP_append, uncounted]
      change _ + (0 + countP _ (if (s.ops op).completed = true then _ else _)) = 1
      cases completed : (s.ops op).completed with
      | true => rfl
      | false => simp [SocketOutput.completes]
    · exact Nat.le_trans (Nat.le.intro (queued_of_taken taken op).symm) sound.once
    · intro pending
      have before := queued_of_taken taken op
      change 0 < (s.tasks.eraseIdx index).countP (SocketWork.connects op) at pending
      rcases own with ⟨type, endpoint, rfl, -⟩ | ⟨rfl, -⟩
      · rw [SocketWork.connects, decide_eq_true rfl, if_pos rfl] at before
        have once := sound.once
        omega
      · refine ⟨bound, absent, fun _ => ?_⟩
        simp only [update_self]
        exact sound.cancels (mem_of_taken taken)
    · exact fun held => absurd held absent
    · intro _ pending
      simp only [update_self, Bool.true_eq_false] at pending
    · intro mem
      simp only [update_self]
      exact sound.cancels (mem_of_mem_eraseIdx mem)
    · simp only [update_self]
      intro failed
      rw [show ((s.take index outputs).ops op).reserved = false from sound.refused failed]
      rfl
    · intro pending
      simp only [update_self, Bool.true_eq_false] at pending
  · refine sound.of_alike (.of_taken taken ?_ ?_ rfl (append_assoc ..)
      (update_of_ne same _ _) rfl Iff.rfl)
    · rcases own with ⟨type, endpoint, rfl, -⟩ | ⟨rfl, -⟩
      · exact decide_eq_false same
      · rfl
    · intro output mem
      have one : output = .cancelling refused ∨ output = .completed refused errorCode := by
        rcases mem_append.mp mem with first | second
        · rcases outputs_eq with rfl | rfl
          · cases first
          · exact .inl (mem_singleton.mp first)
        · split at second
          · cases second
          · exact .inr (mem_singleton.mp second)
      rcases one with rfl | rfl
      · exact ⟨rfl, fun _ => decide_eq_false same⟩
      · exact ⟨decide_eq_false same, fun _ => rfl⟩

/-- Outside `state::connecting` no operation is the current one. -/
theorem absent_of_state (state : s.state ≠ .connecting) :
    s.connectOp = none := by
  cases held : s.connectOp with
  | none => rfl
  | some op =>
    refine absurd (wellFormed.connecting.mpr ?_) state
    rw [held]
    rfl

theorem begin {begun : Nat} {type : SocketType} {endpoint : Endpoint}
    (taken : s.tasks[index]? = some (.asyncConnectInternal type endpoint begun))
    (pending : (s.ops begun).completed = false) (null : s.state = .null) :
    ((s.take index []).begin type endpoint begun).WellFormed := by
  have none : s.connectOp = none := wellFormed.absent_of_state (by rw [null]; exact nofun)
  have inFlight : s.inFlight ++ [(ConnectStep.resolveHost, begun)] = [(.resolveHost, begun)] := by
    rw [wellFormed.idle none, nil_append]
  refine ⟨fun op => ?_, ⟨fun _ => rfl, fun _ => rfl⟩, ?_, fun absent => nomatch absent⟩
  · have sound := wellFormed.sound op
    by_cases same : op = begun
    · subst same
      have ready := queued_pos taken (decide_eq_true rfl)
      have bound := (sound.ready ready).1
      have ops : ((s.take index []).begin type endpoint op).ops op =
          { s.ops op with started := true } := update_self ..
      have queued : (s.tasks.eraseIdx index).countP (SocketWork.connects op) = 0 := by
        have before := queued_of_taken taken op
        rw [SocketWork.connects, decide_eq_true rfl, if_pos rfl] at before
        have once := sound.once
        omega
      have log : ((s.take index []).begin type endpoint op).log = s.log ++ [] := rfl
      have silent : s.Silent [] op := fun _ mem => absurd mem not_mem_nil
      constructor
      · exact fun beyond => absurd beyond (Nat.not_le_of_lt bound)
      · rw [silent.invocations log, ops]
        exact sound.invoked
      · exact Nat.le_trans (Nat.le_of_eq queued) (Nat.zero_le 1)
      · exact fun again => absurd queued (Nat.ne_of_gt again)
      · rw [ops]
        exact fun _ => ⟨bound, pending, rfl⟩
      · exact fun _ _ => .inl rfl
      · rw [ops]
        exact fun mem => sound.cancels (mem_of_mem_eraseIdx mem)
      · rw [ops]
        exact sound.refused
      · intro _ stopped
        have before := sound.stopped pending (silent.stopped log pending stopped)
        rw [none] at before
        exact absurd before.1 nofun
    · refine sound.of_alike (.of_taken taken (decide_eq_false same) ?_ rfl rfl
        (update_of_ne same _ _) rfl ?_)
      · exact fun _ mem => absurd mem not_mem_nil
      · rw [none]
        exact ⟨fun held => absurd (Option.some.inj held).symm same, nofun⟩
  · intro op held
    cases held
    exact ⟨.resolveHost, inFlight⟩

theorem stop {stopped : Nat} {work : SocketWork} {output : SocketOutput}
    (taken : s.tasks[index]? = some work)
    (own : work = .closeInternal ∧ output = .closing (some stopped) ∨
      work = .cancelConnect stopped ∧ output = .cancelling stopped)
    (current : s.connectOp = some stopped) :
    ((s.take index [output, .closeTransport]).stop stopped).WellFormed := by
  refine wellFormed.of_alike rfl rfl rfl fun op => ?_
  have sound := wellFormed.sound op
  have other : work.connects op = false := by
    rcases own with ⟨rfl, -⟩ | ⟨rfl, -⟩ <;> rfl
  have uncounted : output.completes op = false := by
    rcases own with ⟨-, rfl⟩ | ⟨-, rfl⟩ <;> rfl
  by_cases same : op = stopped
  · subst same
    obtain ⟨bound, pending, started⟩ := sound.current current
    have ops : ((s.take index [output, .closeTransport]).stop op).ops op =
        { s.ops op with terminalError := .operationAborted } := update_self ..
    have queued : (s.tasks.eraseIdx index).countP (SocketWork.connects op) = s.queued op := by
      rw [queued_of_taken taken, other]
      rfl
    constructor
    · exact fun beyond => absurd beyond (Nat.not_le_of_lt bound)
    · have log : ((s.take index [output, .closeTransport]).stop op).log =
          s.log ++ [output, .closeTransport] := rfl
      rw [invocations_append log, ops, countP_cons, uncounted]
      exact sound.invoked
    · exact Nat.le_trans (Nat.le_of_eq queued) sound.once
    · intro again
      exact absurd current (sound.ready (queued ▸ again)).2.1
    · rw [ops]
      exact sound.current
    · exact fun _ _ => .inl current
    · rw [ops]
      exact fun mem => sound.cancels (mem_of_mem_eraseIdx mem)
    · rw [ops]
      exact sound.refused
    · rw [ops]
      exact fun _ _ => ⟨current, rfl⟩
  · refine sound.of_alike (.of_taken taken other ?_ rfl rfl (update_of_ne same _ _) rfl
      Iff.rfl)
    intro emitted mem
    rcases mem_cons.mp mem with rfl | last
    · refine ⟨uncounted, fun _ => ?_⟩
      rcases own with ⟨-, rfl⟩ | ⟨-, rfl⟩
      · exact decide_eq_false fun equal => same (Option.some.inj equal).symm
      · exact decide_eq_false same
    · rw [mem_singleton.mp last]
      exact ⟨rfl, fun _ => rfl⟩

theorem hangUp (taken : s.tasks[index]? = some .closeInternal)
    (connected : s.state = .connected) :
    (s.take index [.closing none, .closeTransport]).hangUp.WellFormed := by
  have none : s.connectOp = none := wellFormed.absent_of_state (by rw [connected]; exact nofun)
  refine ⟨fun op => ?_, ?_, fun op held => ?_, fun _ => wellFormed.idle none⟩
  · refine (wellFormed.sound op).of_alike (.of_taken taken rfl ?_ rfl rfl rfl rfl Iff.rfl)
    intro output mem
    rcases mem_cons.mp mem with rfl | last
    · exact ⟨rfl, fun _ => rfl⟩
    · rw [mem_singleton.mp last]
      exact ⟨rfl, fun _ => rfl⟩
  · change SocketState.null = .connecting ↔ s.connectOp.isSome = true
    rw [none]
    exact ⟨nofun, nofun⟩
  · exact absurd (none.symm.trans held) nofun

theorem proceed {current : Nat} {next : ConnectStep}
    {outputs : List SocketOutput} (held : s.connectOp = some current)
    (quiet : ∀ output ∈ outputs, ∃ handshake, output = .handshake current handshake) :
    ({ s with inFlight := [(next, current)], log := s.log ++ outputs } : Socket).WellFormed := by
  refine ⟨fun op => ?_, wellFormed.connecting, fun op same => ?_, fun absent => ?_⟩
  · refine (wellFormed.sound op).of_alike (.of_untaken ?_ rfl rfl rfl rfl Iff.rfl)
    intro output mem
    obtain ⟨handshake, rfl⟩ := quiet output mem
    exact ⟨rfl, fun _ => rfl⟩
  · rw [held] at same
    cases same
    exact ⟨next, rfl⟩
  · exact absurd (held.symm.trans absent) nofun

/-- The current operation is completed. -/
theorem finish {finished : Nat} {errorCode : ErrorCode}
    {outputs : List SocketOutput} (held : s.connectOp = some finished)
    (state : t.state ≠ .connecting) (connectOp : t.connectOp = none) (inFlight : t.inFlight = [])
    (ops : t.ops = (s.finish finished).ops) (nextOp : t.nextOp = s.nextOp)
    (tasks : t.tasks = s.tasks) (log : t.log = s.log ++ .completed finished errorCode :: outputs)
    (silent : ∀ op, s.Silent outputs op) : t.WellFormed := by
  refine ⟨fun op => ?_, ?_, fun op current => ?_, fun _ => inFlight⟩
  · have sound := wellFormed.sound op
    by_cases same : op = finished
    · subst same
      obtain ⟨bound, pending, -⟩ := sound.current held
      have now : t.ops op = { s.ops op with started := false, completed := true } := by
        rw [ops]
        exact update_self ..
      have queued : t.queued op = s.queued op := by rw [Socket.queued, tasks, Socket.queued]
      have unqueued : s.queued op = 0 := by
        refine Nat.eq_zero_of_not_pos fun again => ?_
        exact (sound.ready again).2.1 held
      constructor
      · exact fun beyond => absurd beyond (nextOp ▸ Nat.not_le_of_lt bound)
      · have uncounted : outputs.countP (SocketOutput.completes op) = 0 := by
          rw [countP_eq_zero]
          intro output mem
          rw [(silent op output mem).1]
          exact Bool.false_ne_true
        rw [invocations_append log, countP_cons, uncounted, sound.invoked, now, pending]
        simp [SocketOutput.completes]
      · rw [queued, unqueued]
        exact zero_le 1
      · rw [queued, unqueued]
        exact fun again => absurd again (Nat.lt_irrefl 0)
      · rw [connectOp]
        exact fun current => nomatch current
      · rw [now]
        exact fun _ open' => nomatch open'
      · rw [now, tasks]
        exact sound.cancels
      · rw [now]
        exact sound.refused
      · rw [now]
        exact fun open' => nomatch open'
    · refine sound.of_alike (.of_untaken ?_ tasks log ?_ nextOp ?_)
      · intro output mem
        rcases mem_cons.mp mem with rfl | rest
        · exact ⟨decide_eq_false same, fun _ => rfl⟩
        · exact silent op output rest
      · rw [ops]
        exact update_of_ne same _ _
      · rw [connectOp, held]
        exact ⟨nofun, fun current => absurd (Option.some.inj current).symm same⟩
  · rw [connectOp]
    exact ⟨fun connecting => absurd connecting state, nofun⟩
  · rw [connectOp] at current
    cases current

theorem step {event : Event} (taken : s.step event = some t) :
    t.WellFormed := by
  cases wellFormed.step_cases taken with
  | settings settings =>
    rw [setSettings]
    split
    · exact wellFormed
    · refine wellFormed.of_alike rfl rfl rfl fun op => (wellFormed.sound op).of_alike ?_
      exact .of_untaken (fun _ mem => absurd mem not_mem_nil) rfl
        (append_nil _).symm rfl rfl Iff.rfl
  | asyncConnect type endpoint => exact wellFormed.asyncConnect type endpoint
  | close => exact wellFormed.close
  | cancel known => exact wellFormed.cancel known
  | ignored found late => exact wellFormed.ignored found late
  | refused found own absent failed => exact wellFormed.refuse found own absent
  | begun found pending reserved null => exact wellFormed.begin found pending null
  | stopped found own current => exact wellFormed.stop found own current
  | closed found connected => exact wellFormed.hangUp found connected
  | proceeded delivered current inFlight follows clear quiet =>
    exact wellFormed.proceed current quiet
  | failed delivered current inFlight failed recorded =>
    refine wellFormed.finish current nofun rfl rfl rfl rfl rfl rfl fun op output mem => ?_
    rw [mem_singleton.mp mem]
    exact ⟨rfl, fun _ => rfl⟩
  | connected current inFlight succeeded clear endpoint =>
    exact wellFormed.finish current nofun rfl rfl rfl rfl rfl rfl
      fun _ _ mem => absurd mem not_mem_nil

end

theorem run {good : Socket → Event → Prop} (reached : Run Socket.step good {} s) :
    s.WellFormed :=
  reached.invariant wellFormed_initial fun _ _ _ before _ taken => before.step taken

end WellFormed

/-! ## What is still to come -/

/-- The deliveries until an operation with this step in flight is completed. -/
def remaining : ConnectStep → Nat
  | .resolveHost => 3
  | .connect => 2
  | .handshake => 1

/-- The deliveries that an operation waits for, by the steps in flight. -/
def load (inFlight : List (ConnectStep × Nat)) (op : Nat) : Nat :=
  (inFlight.map fun entry => if entry.2 = op then remaining entry.1 else 0).sum

/-- The deliveries that an operation waits for: its turn, and the steps. -/
def outstanding (s : Socket) (op : Nat) : Nat := 4 * s.queued op + load s.inFlight op

/-- The event is the turn of an operation or the completion of one of its steps. -/
def Serves (s : Socket) (event : Event) (op : Nat) : Prop :=
  (∃ step, event.delivers = some (step, op)) ∨
    ∃ index type endpoint, event = .run index ∧
      s.tasks[index]? = some (.asyncConnectInternal type endpoint op)

theorem load_singleton (step : ConnectStep) (current op : Nat) :
    load [(step, current)] op = if current = op then remaining step else 0 := by
  rw [load, map_singleton, sum_singleton]

theorem outstanding_of_called (undelivered : event.delivers = none)
    (unrun : ∀ index, event ≠ .run index) (queued : t.queued op = s.queued op)
    (inFlight : t.inFlight = s.inFlight) :
    t.outstanding op ≤ s.outstanding op ∧
      (s.Serves event op → t.outstanding op < s.outstanding op) := by
  refine ⟨?_, ?_⟩
  · exact Nat.le_of_eq (by rw [outstanding, queued, inFlight, outstanding])
  · rintro (⟨step, delivered⟩ | ⟨index, type, endpoint, run, -⟩)
    · rw [undelivered] at delivered
      cases delivered
    · exact absurd run (unrun index)

theorem connects_of_serves {index : Nat} (taken : s.tasks[index]? = some work)
    (serves : s.Serves (.run index) op) : work.connects op = true := by
  rcases serves with ⟨step, delivered⟩ | ⟨other, type, endpoint, same, found⟩
  · cases delivered
  · cases same
    rw [taken] at found
    cases found
    exact decide_eq_true rfl

/-- Work is taken, and only the operation that it starts may have a step more in flight. -/
theorem outstanding_of_taken {index : Nat} (taken : s.tasks[index]? = some work)
    (tasks : t.tasks = s.tasks.eraseIdx index)
    (fits : load t.inFlight op ≤ load s.inFlight op + if work.connects op then 3 else 0) :
    t.outstanding op ≤ s.outstanding op ∧
      (s.Serves (.run index) op → t.outstanding op < s.outstanding op) := by
  have before := queued_of_taken taken op
  rw [outstanding, outstanding, before, queued, tasks]
  refine ⟨?_, fun serves => ?_⟩
  · by_cases connects : work.connects op = true
    · rw [if_pos connects] at fits ⊢
      omega
    · rw [if_neg connects] at fits ⊢
      omega
  · rw [connects_of_serves taken serves, if_pos rfl] at fits
    rw [connects_of_serves taken serves, if_pos rfl]
    omega

theorem outstanding_of_delivered {current : Nat} {step : ConnectStep}
    (delivered : event.delivers = some (step, current)) (inFlight : s.inFlight = [(step, current)])
    (tasks : t.tasks = s.tasks)
    (less : load t.inFlight op + (if current = op then 1 else 0) ≤ load [(step, current)] op) :
    t.outstanding op ≤ s.outstanding op ∧
      (s.Serves event op → t.outstanding op < s.outstanding op) := by
  rw [outstanding, outstanding, inFlight, queued, tasks, queued]
  refine ⟨by omega, fun serves => ?_⟩
  have same : current = op := by
    rcases serves with ⟨other, again⟩ | ⟨index, type, endpoint, rfl, -⟩
    · rw [delivered] at again
      exact congrArg Prod.snd (Option.some.inj again)
    · cases delivered
  rw [if_pos same] at less
  omega

theorem load_next {step next : ConnectStep} (follows : step.next = some next) (current op : Nat) :
    load [(next, current)] op + (if current = op then 1 else 0) ≤ load [(step, current)] op := by
  rw [load_singleton, load_singleton]
  by_cases same : current = op
  · rw [if_pos same, if_pos same, if_pos same]
    cases step with
    | resolveHost =>
      cases follows
      exact Nat.le_refl 3
    | connect =>
      cases follows
      exact Nat.le_refl 2
    | handshake => cases follows
  · exact Nat.le_of_eq (by rw [if_neg same, if_neg same, if_neg same])

theorem load_last (step : ConnectStep) (current op : Nat) :
    load [] op + (if current = op then 1 else 0) ≤ load [(step, current)] op := by
  rw [load_singleton]
  by_cases same : current = op
  · rw [if_pos same, if_pos same]
    cases step with
    | resolveHost => exact le_add_left 1 2
    | connect => exact le_add_left 1 1
    | handshake => exact Nat.le_refl 1
  · rw [if_neg same, if_neg same]
    exact Nat.le_refl 0

/-- A step adds nothing to what an operation waits for, and a delivery of its own takes from
it. -/
theorem WellFormed.outstanding_step (wellFormed : s.WellFormed) (taken : s.step event = some t)
    (known : op < s.nextOp) :
    t.outstanding op ≤ s.outstanding op ∧
      (s.Serves event op → t.outstanding op < s.outstanding op) := by
  cases wellFormed.step_cases taken with
  | settings settings =>
    rw [setSettings]
    split
    · exact outstanding_of_called rfl nofun rfl rfl
    · exact outstanding_of_called rfl nofun rfl rfl
  | asyncConnect type endpoint =>
    refine outstanding_of_called rfl nofun ?_ rfl
    have other : SocketWork.connects op (.asyncConnectInternal type endpoint s.nextOp) = false :=
      decide_eq_false (Nat.ne_of_lt known)
    rw [queued, Socket.asyncConnect, countP_append, countP_singleton, other]
    rfl
  | close =>
    refine outstanding_of_called rfl nofun ?_ rfl
    rw [queued, Socket.close, countP_append]
    rfl
  | cancel _ =>
    refine outstanding_of_called rfl nofun ?_ rfl
    rw [queued, Socket.cancel, countP_append]
    rfl
  | ignored found late | stopped found own current | closed found connected => exact outstanding_of_taken found rfl (le_add_right _ _)
  | refused found own absent failed =>
    rw [refuse_eq (s := s.take _ _) absent]
    exact outstanding_of_taken found rfl (le_add_right _ _)
  | @begun index begun type endpoint found pending reserved null =>
    have none : s.connectOp = none := wellFormed.absent_of_state (by rw [null]; exact nofun)
    refine outstanding_of_taken found rfl ?_
    change load (s.inFlight ++ [(ConnectStep.resolveHost, begun)]) op ≤ _
    rw [wellFormed.idle none, nil_append, load_singleton, SocketWork.connects]
    by_cases same : begun = op
    · rw [if_pos same, if_pos (decide_eq_true same.symm)]
      exact le_add_left 3 _
    · rw [if_neg same]
      exact zero_le _
  | proceeded delivered current inFlight follows clear quiet =>
    exact outstanding_of_delivered delivered inFlight rfl (load_next follows _ op)
  | failed delivered current inFlight failed recorded =>
    exact outstanding_of_delivered delivered inFlight rfl (load_last _ _ op)
  | connected current inFlight succeeded clear endpoint =>
    exact outstanding_of_delivered rfl inFlight rfl (load_last _ _ op)

/-- An operation that waits for nothing is completed. -/
theorem WellFormed.completed_of_outstanding (wellFormed : s.WellFormed) (known : op < s.nextOp)
    (none : s.outstanding op = 0) : (s.ops op).completed = true := by
  rw [← Bool.not_eq_false]
  intro pending
  rw [outstanding, Nat.add_eq_zero_iff] at none
  rcases (wellFormed.sound op).awaited known pending with current | queued
  · obtain ⟨step, inFlight⟩ := wellFormed.single op current
    have left := none.2
    rw [inFlight, load_singleton, if_pos rfl] at left
    cases step <;> cases left
  · omega

/-- There is a delivery for an operation that waits for one. -/
theorem WellFormed.exists_serves (wellFormed : s.WellFormed) (waits : s.outstanding op ≠ 0) :
    ∃ event t, s.Serves event op ∧ s.step event = some t := by
  by_cases queued : s.queued op = 0
  · cases current : s.connectOp with
    | none =>
      rw [outstanding, queued, wellFormed.idle current] at waits
      exact absurd rfl waits
    | some other =>
      obtain ⟨step, inFlight⟩ := wellFormed.single other current
      have same : other = op := by
        by_contra different
        rw [outstanding, queued, inFlight, load_singleton, if_neg different] at waits
        exact waits rfl
      subst same
      have mem : (step, other) ∈ s.inFlight := by
        rw [inFlight]
        exact mem_singleton_self _
      cases step with
      | resolveHost =>
        exact ⟨.resolved other .none false, _, .inl ⟨.resolveHost, rfl⟩, if_pos mem⟩
      | connect => exact ⟨.connected other .none, _, .inl ⟨.connect, rfl⟩, if_pos mem⟩
      | handshake => exact ⟨.handshook other .none, _, .inl ⟨.handshake, rfl⟩, if_pos mem⟩
  · obtain ⟨work, mem, connects⟩ := countP_pos_iff.mp (Nat.pos_of_ne_zero queued)
    cases work with
    | asyncConnectInternal type endpoint other =>
      have same : op = other := of_decide_eq_true connects
      subst same
      obtain ⟨index, found⟩ := mem_iff_getElem?.mp mem
      refine ⟨.run index, ({ s with tasks := s.tasks.eraseIdx index } : Socket).perform
        (.asyncConnectInternal type endpoint op), .inr ⟨index, type, endpoint, rfl, found⟩, ?_⟩
      rw [Socket.step, found]
    | cancelConnect other | closeInternal => cases connects

/-! ## Completions -/

/-- The step completes an operation. -/
def Completes (s t : Socket) (op : Nat) (errorCode : ErrorCode) : Prop :=
  .completed op errorCode ∈ t.log ∧ .completed op errorCode ∉ s.log

theorem not_completes_of_log {errorCode : ErrorCode} (log : t.log = s.log ++ outputs)
    (silent : .completed op errorCode ∉ outputs) : ¬ Completes s t op errorCode := by
  rintro ⟨now, before⟩
  rw [log, mem_append] at now
  exact now.elim before silent

/-- Only the handshake of an operation reports success, and only if the operation was not
stopped. -/
theorem WellFormed.succeeds (wellFormed : s.WellFormed) {errorCode : ErrorCode}
    (taken : s.step event = some t) (completes : Completes s t op errorCode)
    (succeeded : errorCode.failed = false) :
    ∃ handshakeError, event = .handshook op handshakeError ∧ handshakeError.failed = false ∧
      (.handshake, op) ∈ s.inFlight ∧ ¬ s.Stopped op := by
  have failing : ∀ outputs : List SocketOutput, t.log = s.log ++ outputs →
      (∀ other code, .completed other code ∈ outputs → code.failed = true) → False := by
    intro outputs log failed
    refine not_completes_of_log log (fun mem => ?_) completes
    rw [failed op errorCode mem] at succeeded
    cases succeeded
  have quiet : t.log = s.log → False :=
    fun same => failing [] (same.trans (append_nil _).symm)
      fun _ _ mem => absurd mem not_mem_nil
  cases wellFormed.step_cases taken with
  | settings settings =>
    refine (quiet ?_).elim
    rw [setSettings]
    split <;> rfl
  | asyncConnect type endpoint | close | cancel known => exact (quiet rfl).elim
  | @ignored index work output found late =>
    refine (failing [output] rfl fun other code mem => ?_).elim
    rw [← mem_singleton.mp mem] at late
    rcases late with ⟨-, equal, -⟩ | ⟨cancelled, -, equal, -⟩ <;> cases equal
  | @refused index refused work outputs refusal found own absent failed =>
    refine (failing _ (by rw [refuse_eq (s := s.take _ _) absent]; exact append_assoc ..)
      fun other code mem => ?_).elim
    rcases mem_append.mp mem with first | second
    · rcases own with ⟨type, endpoint, -, rfl⟩ | ⟨-, rfl, -⟩
      · cases first
      · cases mem_singleton.mp first
    · split at second
      · cases second
      · cases mem_singleton.mp second
        exact failed
  | begun found pending reserved null =>
    exact (failing [] rfl fun _ _ mem => absurd mem not_mem_nil).elim
  | @stopped index stopped work output found own current =>
    refine (failing [output, .closeTransport] rfl fun other code mem => ?_).elim
    rcases mem_cons.mp mem with rfl | last
    · rcases own with ⟨-, equal⟩ | ⟨-, equal⟩ <;> cases equal
    · cases mem_singleton.mp last
  | closed found connected =>
    refine (failing [.closing none, .closeTransport] rfl fun other code mem => ?_).elim
    rcases mem_cons.mp mem with equal | last
    · cases equal
    · cases mem_singleton.mp last
  | @proceeded event current step next outputs delivered held inFlight follows clear quiet' =>
    refine (failing outputs rfl fun other code mem => ?_).elim
    obtain ⟨handshake, equal⟩ := quiet' _ mem
    cases equal
  | @failed event current step reported delivered held inFlight failed recorded =>
    refine (failing [.completed current reported, .closeTransport] rfl
      fun other code mem => ?_).elim
    rcases mem_cons.mp mem with equal | last
    · cases equal
      exact failed
    · cases mem_singleton.mp last
  | @connected current handshakeError held inFlight clear unstopped endpoint =>
    have same : op = current := by
      obtain ⟨now, before⟩ := completes
      have last := (mem_append.mp now).resolve_left before
      cases mem_singleton.mp last
      rfl
    subst same
    refine ⟨handshakeError, rfl, clear, by rw [inFlight]; exact mem_singleton_self _, ?_⟩
    intro stopped
    obtain ⟨-, aborted⟩ :=
      (wellFormed.sound op).stopped ((wellFormed.sound op).current held).2.1 stopped
    rw [aborted] at unstopped
    cases unstopped

theorem WellFormed.ends (wellFormed : s.WellFormed) {step : ConnectStep}
    (taken : s.step event = some t) (stopped : s.Stopped op) (inFlight : (step, op) ∈ s.inFlight)
    (delivers : event.delivers = some (step, op)) :
    (s.ops op).terminalError = .operationAborted ∧
      t.log = s.log ++ [.completed op (s.ops op).terminalError, .closeTransport] ∧
      t.state = .null := by
  have held := (wellFormed.inFlight_eq inFlight).1
  obtain ⟨-, aborted⟩ :=
    (wellFormed.sound op).stopped ((wellFormed.sound op).current held).2.1 stopped
  have terminal : (s.ops op).terminalError.failed = true := by
    rw [aborted]
    rfl
  refine ⟨aborted, ?_⟩
  cases wellFormed.step_cases taken with
  | settings | asyncConnect | close | cancel | ignored | refused | begun | stopped | closed =>
    cases delivers
  | proceeded delivered current only follows clear quiet =>
    rw [delivers] at delivered
    cases delivered
    rw [terminal] at clear
    cases clear
  | failed delivered current only failed recorded =>
    rw [delivers] at delivered
    cases delivered
    rw [recorded terminal]
    exact ⟨rfl, rfl⟩
  | connected current only succeeded clear endpoint =>
    cases delivers
    rw [terminal] at clear
    cases clear

/-- **Connect operations.** In every run the handler of every connect operation is invoked at
most once, and once when nothing is outstanding for it. What is outstanding never grows,
there is always a delivery for it, and a delivery takes from it. Success is reported only by
the handshake of the operation itself, when no close or cancellation has run for it. An
operation for which one has run reports the recorded error when its step completes, and the
socket is without a connection. -/
theorem connect_operations (reachable : Reaches step {} s) :
    (∀ op, s.invocations op ≤ 1) ∧
    (∀ op, op < s.nextOp → s.outstanding op = 0 → s.invocations op = 1) ∧
    (∀ op, s.outstanding op ≠ 0 → ∃ event t, s.Serves event op ∧ s.step event = some t) ∧
    (∀ op event t, op < s.nextOp → s.step event = some t →
      t.outstanding op ≤ s.outstanding op ∧
        (s.Serves event op → t.outstanding op < s.outstanding op)) ∧
    (∀ op event t errorCode, s.step event = some t → Completes s t op errorCode →
      errorCode.failed = false →
        ∃ handshakeError, event = .handshook op handshakeError ∧
          handshakeError.failed = false ∧ (.handshake, op) ∈ s.inFlight ∧ ¬ s.Stopped op) ∧
    (∀ op event t step, s.step event = some t → s.Stopped op → (step, op) ∈ s.inFlight →
      event.delivers = some (step, op) →
        (s.ops op).terminalError = .operationAborted ∧
          t.log = s.log ++ [.completed op (s.ops op).terminalError, .closeTransport] ∧
          t.state = .null) := by
  have wellFormed := WellFormed.run reachable
  refine ⟨fun op => ?_, fun op known none => ?_, fun op => wellFormed.exists_serves,
    fun op event t known taken => wellFormed.outstanding_step taken known,
    fun op event t errorCode taken => wellFormed.succeeds taken,
    fun op event t step taken => wellFormed.ends taken⟩
  · rw [(wellFormed.sound op).invoked]
    split
    · exact Nat.le_refl 1
    · exact zero_le 1
  · rw [(wellFormed.sound op).invoked, wellFormed.completed_of_outstanding known none, if_pos rfl]

/-- A socket is asked to connect, and closed while it resolves the address of the server. -/
def closeWhileResolving : List Event :=
  [.asyncConnect .client { idName := some "tunnel" }, .run 0, .close, .run 0]

theorem closeWhileResolving_isSome :
    (exec step {} closeWhileResolving).isSome = true := by
  decide

/-- A socket whose connect operation was stopped. -/
def stoppedSocket : Socket :=
  (exec step {} closeWhileResolving).get closeWhileResolving_isSome

theorem stoppedSocket_aborted : ∃ t,
    stoppedSocket.step (.resolved 0 .none false) = some t ∧
      t.log = stoppedSocket.log ++ [.completed 0 .operationAborted, .closeTransport] ∧
      t.state = .null := by
  have reachable : Reaches step {} stoppedSocket :=
    Reaches.of_exec closeWhileResolving_isSome
  have inFlight : (ConnectStep.resolveHost, 0) ∈ stoppedSocket.inFlight := by decide
  have stopped : stoppedSocket.log.any (SocketOutput.stops 0) = true := by decide
  have delivered : (stoppedSocket.step (.resolved 0 .none false)).isSome = true := by decide
  obtain ⟨t, taken⟩ := Option.isSome_iff_exists.mp delivered
  obtain ⟨aborted, log, null⟩ := (connect_operations reachable).2.2.2.2.2 0
    (.resolved 0 .none false) t .resolveHost taken stopped inFlight rfl
  rw [aborted] at log
  exact ⟨t, taken, log, null⟩

end Rstream.IoRstrm.Socket
