import Rstream.Library.Counting
import Rstream.IoRstrm.Acceptor.Effects

/-!
# Well-formed acceptor states

`WellFormed` is what every reachable state of the acceptor satisfies. An accept
operation is marked completed exactly when its handler has been invoked; the
operation in `m_accept_op` is not completed, and nothing is going to start it
again; `m_is_state_non_null` holds exactly outside `state::null` and while a start
is reserved; and the reserved operation that waits for its start is unique.
-/

namespace Rstream.IoRstrm

open Function (update update_of_ne update_self)

/-- The output is the invocation of the handler of an accept operation. -/
def AcceptorOutput.completes (op : Nat) : AcceptorOutput → Bool
  | .completed other _ => op = other
  | _ => false

namespace Acceptor

variable {area : Area} {s t : Acceptor}

/-- How often the handler of an accept operation was invoked. -/
def invocations (s : Acceptor) (op : Nat) : Nat := s.log.countP (AcceptorOutput.completes op)

/-- A reserved operation that is neither started nor completed. -/
structure Waiting (s : Acceptor) (op : Nat) : Prop where
  reserved : (s.ops op).reserved = true
  pending : (s.ops op).completed = false
  absent : s.acceptOp ≠ some op

structure WellFormed (s : Acceptor) : Prop where
  unused : ∀ op, s.nextOp ≤ op → s.ops op = {}
  invoked : ∀ op, s.invocations op = if (s.ops op).completed then 1 else 0
  once : ∀ op, s.dispatched op ≤ 1
  ready : ∀ op, 0 < s.dispatched op → op < s.nextOp ∧ s.acceptOp ≠ some op ∧
    ((s.ops op).completed = true → (s.ops op).cancelled = true ∧ (s.ops op).reserved = false)
  stored : ∀ op, s.acceptOp = some op → op < s.nextOp ∧ (s.ops op).completed = false
  open' : s.acceptOp.isSome = true → s.state ≠ .null
  admitted : s.isStateNonNull = true ↔ s.state ≠ .null ∨ s.startPending = true
  starting : s.startPending = true → s.state = .null
  waiting : ∀ op, s.Waiting op → s.startPending = true
  single : ∀ op other, s.Waiting op → s.Waiting other → op = other
  attached : s.client.isSome = true ↔ s.state ≠ .null
  requested : ∀ request ∈ s.requests, ∀ op, request.kind = .accept op →
    op < s.nextOp ∧ s.dispatched op = 0

/-! ## Completing an operation -/

theorem completeAccept_of_completed {op : Nat} (completed : (s.ops op).completed = true)
    (errorCode : ErrorCode) : s.completeAccept op errorCode = s :=
  if_pos completed

theorem completeAccept_of_pending {op : Nat} (pending : (s.ops op).completed = false)
    (errorCode : ErrorCode) :
    s.completeAccept op errorCode =
      (s.modifyOp op fun o => { o with completed := true }).emit (.completed op errorCode) :=
  if_neg (by simp [pending])

/-- What `complete_accept` changes. -/
theorem completeAccept_frame (s : Acceptor) (op : Nat) (errorCode : ErrorCode) :
    ∃ ops log, s.completeAccept op errorCode = { s with ops := ops, log := log } ∧
      (∀ other, other ≠ op → ops other = s.ops other) ∧
      ops op = { s.ops op with completed := true } := by
  cases completed : (s.ops op).completed with
  | true =>
    refine ⟨s.ops, s.log, completeAccept_of_completed completed errorCode, fun _ _ => rfl, ?_⟩
    rw [← completed]
  | false =>
    refine ⟨_, _, completeAccept_of_pending completed errorCode, fun other different => ?_, ?_⟩
    · exact update_of_ne different _ _
    · exact update_self ..

theorem invocations_emit (s : Acceptor) (output : AcceptorOutput) (op : Nat) :
    (s.emit output).invocations op = s.invocations op + if output.completes op then 1 else 0 := by
  rw [invocations, emit_log, List.countP_append, List.countP_singleton, invocations]

/-- The account of invocations under `complete_accept`. -/
theorem invoked_completeAccept (op : Nat) (errorCode : ErrorCode)
    (invoked : ∀ other, s.invocations other = if (s.ops other).completed then 1 else 0)
    (other : Nat) :
    (s.completeAccept op errorCode).invocations other =
      if ((s.completeAccept op errorCode).ops other).completed then 1 else 0 := by
  cases completed : (s.ops op).completed with
  | true =>
    rw [completeAccept_of_completed completed]
    exact invoked other
  | false =>
    have before := invoked other
    rw [completeAccept_of_pending completed, invocations_emit]
    simp only [invocations, modifyOp_log, emit_ops, modifyOp_ops] at before ⊢
    rw [before]
    by_cases same : other = op
    · subst same
      simp [AcceptorOutput.completes, completed]
    · simp [AcceptorOutput.completes, same]

namespace WellFormed

/-- The fields an effect leaves alone need no argument. -/
theorem of_eq (wellFormed : s.WellFormed) (ops : t.ops = s.ops) (nextOp : t.nextOp = s.nextOp)
    (tasks : t.tasks = s.tasks) (acceptOp : t.acceptOp = s.acceptOp)
    (invocations : ∀ op, t.invocations op = s.invocations op)
    (open' : s.acceptOp.isSome = true → t.state ≠ .null)
    (admitted : t.isStateNonNull = true ↔ t.state ≠ .null ∨ t.startPending = true)
    (starting : t.startPending = true → t.state = .null)
    (waiting : ∀ op, s.Waiting op → t.startPending = true)
    (attached : t.client.isSome = true ↔ t.state ≠ .null)
    (requested : ∀ request ∈ t.requests, ∀ op, request.kind = .accept op →
      op < s.nextOp ∧ s.dispatched op = 0) :
    t.WellFormed where
  unused := by
    rw [nextOp, ops]
    exact wellFormed.unused
  invoked op := by
    rw [invocations, ops]
    exact wellFormed.invoked op
  once op := by
    rw [dispatched, tasks]
    exact wellFormed.once op
  ready op pending := by
    rw [dispatched, tasks] at pending
    rw [nextOp, acceptOp, ops]
    exact wellFormed.ready op pending
  stored op held := by
    rw [acceptOp] at held
    rw [nextOp, ops]
    exact wellFormed.stored op held
  open' := by
    rw [acceptOp]
    exact open'
  admitted := admitted
  starting := starting
  waiting op waits := waiting op ⟨ops ▸ waits.reserved, ops ▸ waits.pending, acceptOp ▸ waits.absent⟩
  single op other waits also :=
    wellFormed.single op other ⟨ops ▸ waits.reserved, ops ▸ waits.pending, acceptOp ▸ waits.absent⟩
      ⟨ops ▸ also.reserved, ops ▸ also.pending, acceptOp ▸ also.absent⟩
  attached := attached
  requested := by
    unfold dispatched
    rw [nextOp, tasks]
    exact requested

/-- An effect that leaves the operations, their starts and the admission alone. -/
theorem of_running (wellFormed : s.WellFormed) (ops : t.ops = s.ops)
    (nextOp : t.nextOp = s.nextOp) (tasks : t.tasks = s.tasks) (acceptOp : t.acceptOp = s.acceptOp)
    (invocations : ∀ op, t.invocations op = s.invocations op)
    (isStateNonNull : t.isStateNonNull = s.isStateNonNull)
    (startPending : t.startPending = s.startPending) (client : t.client = s.client)
    (state : t.state = .null ↔ s.state = .null)
    (requested : ∀ request ∈ t.requests, ∀ op, request.kind = .accept op →
      op < s.nextOp ∧ s.dispatched op = 0) :
    t.WellFormed := by
  refine wellFormed.of_eq ops nextOp tasks acceptOp invocations ?_ ?_ ?_ ?_ ?_ requested
  · rw [Ne, state]
    exact wellFormed.open'
  · rw [isStateNonNull, startPending, Ne, state]
    exact wellFormed.admitted
  · rw [startPending, state]
    exact wellFormed.starting
  · rw [startPending]
    exact wellFormed.waiting
  · rw [client, Ne, state]
    exact wellFormed.attached

variable {op : Nat}

/-- Completing an operation: the fields about operations, for the states before and
after that agree on everything but that operation and the log. -/
theorem waiting_of_completed {u : Acceptor} {other : Nat} (waits : u.Waiting other)
    (others : ∀ index, index ≠ op → u.ops index = s.ops index)
    (completed : (u.ops op).completed = true) (absent : s.acceptOp ≠ some other) :
    other ≠ op ∧ s.Waiting other := by
  have different : other ≠ op := by
    rintro rfl
    have pending := waits.pending
    rw [completed] at pending
    contradiction
  have same := others other different
  exact ⟨different, same ▸ waits.reserved, same ▸ waits.pending, absent⟩

section

variable (wellFormed : s.WellFormed)

include wellFormed

theorem settle (errorCode : ErrorCode) (absent : s.acceptOp ≠ some op)
    (known : s.dispatched op = 0 ∨ (s.ops op).cancelled = true ∧ (s.ops op).reserved = false)
    (allocated : op < s.nextOp) : (s.completeAccept op errorCode).WellFormed := by
  have invoked := invoked_completeAccept op errorCode wellFormed.invoked
  obtain ⟨ops, log, framed, others, here⟩ := completeAccept_frame s op errorCode
  rw [framed] at invoked ⊢
  have done : (ops op).completed = true := by rw [here]
  have waited (other : Nat) (waits : ({ s with ops := ops, log := log } : Acceptor).Waiting other) :
      s.Waiting other :=
    (waiting_of_completed waits others done waits.absent).2
  refine ⟨fun other unused => ?_, invoked, wellFormed.once, fun other pending => ?_,
    fun other stored => ?_, wellFormed.open', wellFormed.admitted, wellFormed.starting,
    fun other waits => wellFormed.waiting other (waited other waits),
    fun other another waits also =>
      wellFormed.single other another (waited other waits) (waited another also),
    wellFormed.attached, wellFormed.requested⟩
  · have different : other ≠ op := by
      have bound : s.nextOp ≤ other := unused
      omega
    exact (others other different).trans (wellFormed.unused other unused)
  · obtain ⟨bound, free, open'⟩ := wellFormed.ready other pending
    refine ⟨bound, free, fun completed => ?_⟩
    by_cases same : other = op
    · subst same
      rcases known with none | cancelled
      · have some : 0 < s.dispatched other := pending
        omega
      · simpa [here] using cancelled
    · simp only [others other same] at completed ⊢
      exact open' completed
  · have different : other ≠ op := by
      rintro rfl
      exact absent stored
    simp only [others other different]
    exact wellFormed.stored other stored

theorem finish (errorCode : ErrorCode) (stored : s.acceptOp = some op) :
    (({ s with acceptOp := none } : Acceptor).completeAccept op errorCode).WellFormed := by
  have invoked := invoked_completeAccept (s := { s with acceptOp := none }) op errorCode
    wellFormed.invoked
  obtain ⟨ops, log, framed, others, here⟩ :=
    completeAccept_frame { s with acceptOp := none } op errorCode
  rw [framed] at invoked ⊢
  have done : (ops op).completed = true := by rw [here]
  have waited (other : Nat)
      (waits : ({ s with acceptOp := none, ops := ops, log := log } : Acceptor).Waiting other) :
      s.Waiting other := by
    have kept : ∀ index, index ≠ op → ops index = s.ops index := others
    obtain ⟨different, -⟩ := waiting_of_completed waits others done (by simp)
    refine (waiting_of_completed waits kept done ?_).2
    rw [stored]
    exact fun same => different (Option.some_inj.mp same).symm
  refine ⟨fun other unused => ?_, invoked, wellFormed.once, fun other pending => ?_,
    fun other held => ?_, by simp, wellFormed.admitted, wellFormed.starting,
    fun other waits => wellFormed.waiting other (waited other waits),
    fun other another waits also =>
      wellFormed.single other another (waited other waits) (waited another also),
    wellFormed.attached, wellFormed.requested⟩
  · have different : other ≠ op := by
      have bound : s.nextOp ≤ other := unused
      have allocated := (wellFormed.stored op stored).1
      omega
    exact (others other different).trans (wellFormed.unused other unused)
  · obtain ⟨bound, free, open'⟩ := wellFormed.ready other pending
    have different : other ≠ op := by
      rintro rfl
      exact free stored
    simp only [others other different]
    exact ⟨bound, by simp, open'⟩
  · contradiction

theorem allocated_of_ne (used : s.ops op ≠ {}) : op < s.nextOp := by
  by_contra beyond
  exact used (wellFormed.unused op (Nat.le_of_not_lt beyond))

theorem release (null : s.state = .null) (waits : s.Waiting op) :
    ({ s.modifyOp op (fun o => { o with reserved := false }) with
      startPending := false, isStateNonNull := false } : Acceptor).WellFormed := by
  have used : s.ops op ≠ {} := by
    intro initial
    have reserved := waits.reserved
    rw [initial] at reserved
    contradiction
  have allocated := wellFormed.allocated_of_ne used
  have flags {β : Type} (flag : AcceptOp → β)
      (kept : ∀ o : AcceptOp, flag { o with reserved := false } = flag o) (other : Nat) :
      flag (update s.ops op { s.ops op with reserved := false } other) =
        flag (s.ops other) := by
    by_cases same : other = op
    · rw [same, update_self, kept]
    · rw [update_of_ne same]
  have none (other : Nat) : ¬({ s.modifyOp op (fun o => { o with reserved := false }) with
      startPending := false, isStateNonNull := false } : Acceptor).Waiting other := by
    intro also
    by_cases same : other = op
    · subst same
      have reserved := also.reserved
      simp at reserved
    · have before : s.Waiting other := by
        have reserved := also.reserved
        have pending := also.pending
        simp only [modifyOp_ops, update_of_ne same] at reserved pending
        exact ⟨reserved, pending, also.absent⟩
      exact same (wellFormed.single other op before waits)
  refine ⟨fun other unused => ?_, fun other => ?_, wellFormed.once, fun other pending => ?_,
    fun other stored => ?_, wellFormed.open', by simp [null], fun _ => null, fun other also => absurd also (none other),
    fun other _ also => absurd also (none other), wellFormed.attached, wellFormed.requested⟩
  · have different : other ≠ op := by
      have bound : s.nextOp ≤ other := unused
      omega
    exact (update_of_ne different _ _).trans (wellFormed.unused other unused)
  · simp only [modifyOp_ops, flags AcceptOp.completed (fun _ => rfl) other]
    exact wellFormed.invoked other
  · simp only [modifyOp_ops, flags AcceptOp.completed (fun _ => rfl) other,
      flags AcceptOp.cancelled (fun _ => rfl) other]
    obtain ⟨bound, free, open'⟩ := wellFormed.ready other pending
    refine ⟨bound, free, fun done => ⟨(open' done).1, ?_⟩⟩
    by_cases same : other = op
    · rw [same, update_self]
    · rw [update_of_ne same]
      exact (open' done).2
  · simp only [modifyOp_ops, flags AcceptOp.completed (fun _ => rfl) other]
    exact wellFormed.stored other stored

/-- Storing an operation that was not completed before it was started. -/
theorem store (running : s.state ≠ .null) (free : s.acceptOp = none)
    (ready : s.Ready op) (uncancelled : (s.ops op).cancelled = false) :
    ({ s with acceptOp := some op } : Acceptor).WellFormed := by
  have pending : (s.ops op).completed = false := by
    cases completed : (s.ops op).completed with
    | false => rfl
    | true =>
      have cancelled := (ready.open' completed).1
      rw [uncancelled] at cancelled
      contradiction
  have waited (other : Nat) (waits : ({ s with acceptOp := some op } : Acceptor).Waiting other) :
      s.Waiting other :=
    ⟨waits.reserved, waits.pending, by simp [free]⟩
  refine ⟨wellFormed.unused, wellFormed.invoked, wellFormed.once, fun other dispatched => ?_,
    fun other stored => ?_, fun _ => running, wellFormed.admitted, wellFormed.starting,
    fun other waits => wellFormed.waiting other (waited other waits),
    fun other another waits also =>
      wellFormed.single other another (waited other waits) (waited another also),
    wellFormed.attached, wellFormed.requested⟩
  · obtain ⟨bound, -, open'⟩ := wellFormed.ready other dispatched
    refine ⟨bound, ?_, open'⟩
    rintro ⟨⟩
    have none := ready.consumed
    have some : 0 < s.dispatched op := dispatched
    omega
  · cases stored
    exact ⟨ready.allocated, pending⟩

/-- A change of an operation that keeps the flags the invariant reads. -/
theorem modifyOp {change : AcceptOp → AcceptOp}
    (allocated : op < s.nextOp) (completed : ∀ o, (change o).completed = o.completed)
    (cancelled : ∀ o, o.cancelled = true → (change o).cancelled = true)
    (reserved : ∀ o, (change o).reserved = o.reserved) : (s.modifyOp op change).WellFormed := by
  have flags {β : Type} (flag : AcceptOp → β) (kept : ∀ o, flag (change o) = flag o)
      (other : Nat) : flag ((s.modifyOp op change).ops other) = flag (s.ops other) := by
    by_cases same : other = op
    · rw [same, modifyOp_ops, update_self, kept]
    · rw [modifyOp_ops, update_of_ne same]
  have waited (other : Nat) (waits : (s.modifyOp op change).Waiting other) : s.Waiting other :=
    ⟨(flags AcceptOp.reserved reserved other).symm.trans waits.reserved,
      (flags AcceptOp.completed completed other).symm.trans waits.pending, waits.absent⟩
  refine ⟨fun other unused => ?_, fun other => ?_, wellFormed.once, fun other pending => ?_,
    fun other stored => ?_, wellFormed.open', wellFormed.admitted, wellFormed.starting,
    fun other waits => wellFormed.waiting other (waited other waits),
    fun other another waits also =>
      wellFormed.single other another (waited other waits) (waited another also),
    wellFormed.attached, wellFormed.requested⟩
  · have different : other ≠ op := by
      have bound : s.nextOp ≤ other := unused
      omega
    exact (update_of_ne different _ _).trans (wellFormed.unused other unused)
  · rw [flags AcceptOp.completed completed other]
    exact wellFormed.invoked other
  · rw [flags AcceptOp.completed completed other, flags AcceptOp.reserved reserved other]
    obtain ⟨bound, free, open'⟩ := wellFormed.ready other pending
    refine ⟨bound, free, fun done => ⟨?_, (open' done).2⟩⟩
    have before := (open' done).1
    by_cases same : other = op
    · subst same
      rw [modifyOp_ops, update_self]
      exact cancelled _ before
    · rw [modifyOp_ops, update_of_ne same]
      exact before
  · rw [flags AcceptOp.completed completed other]
    exact wellFormed.stored other stored

/-- A new operation object, completed by no one. -/
theorem allocate (change : AcceptOp → AcceptOp)
    (completed : ∀ o, (change o).completed = o.completed)
    (starting : s.startPending = t.startPending ∨ s.startPending = false ∧ t.startPending = true)
    (reserved : (∀ o, (change o).reserved = o.reserved) ∨
      s.startPending = false ∧ t.startPending = true)
    (framed : t = { s.modifyOp s.nextOp change with
      nextOp := s.nextOp + 1, isStateNonNull := t.isStateNonNull, startPending := t.startPending })
    (admitted : t.isStateNonNull = true ↔ t.state ≠ .null ∨ t.startPending = true)
    (null : t.startPending = true → t.state = .null) : t.WellFormed := by
  have initial := wellFormed.unused s.nextOp (Nat.le_refl _)
  have ops : t.ops = update s.ops s.nextOp (change (s.ops s.nextOp)) := by rw [framed]; rfl
  have nextOp : t.nextOp = s.nextOp + 1 := by rw [framed]
  have tasks : t.tasks = s.tasks := by rw [framed]; rfl
  have acceptOp : t.acceptOp = s.acceptOp := by rw [framed]; rfl
  have log : t.log = s.log := by rw [framed]; rfl
  have state : t.state = s.state := by rw [framed]; rfl
  have requests : t.requests = s.requests := by rw [framed]; rfl
  have client : t.client = s.client := by rw [framed]; rfl
  have old {other : Nat} (before : other < s.nextOp) : t.ops other = s.ops other := by
    rw [ops, update_of_ne (Nat.ne_of_lt before)]
  have done (other : Nat) : (t.ops other).completed = (s.ops other).completed := by
    by_cases same : other = s.nextOp
    · rw [ops, same, update_self, completed]
    · rw [ops, update_of_ne same]
  have waited (other : Nat) (waits : t.Waiting other) :
      s.Waiting other ∨ other = s.nextOp ∧ s.startPending = false ∧ t.startPending = true := by
    by_cases same : other = s.nextOp
    · rcases reserved with kept | fresh
      · have flag := waits.reserved
        rw [ops, same, update_self, kept, initial] at flag
        contradiction
      · exact .inr ⟨same, fresh⟩
    · have kept : t.ops other = s.ops other := by rw [ops, update_of_ne same]
      exact .inl ⟨kept ▸ waits.reserved, kept ▸ waits.pending, acceptOp ▸ waits.absent⟩
  have before (other : Nat) (waits : s.Waiting other) : s.startPending = true :=
    wellFormed.waiting other waits
  refine ⟨fun other unused => ?_, fun other => ?_, fun other => ?_, fun other pending => ?_,
    fun other stored => ?_, ?_, admitted, null, fun other waits => ?_,
    fun other another waits also => ?_, ?_, fun request mem op kind => ?_⟩
  · rw [nextOp] at unused
    rw [ops, update_of_ne (by omega)]
    exact wellFormed.unused other (by omega)
  · rw [invocations, log, done]
    exact wellFormed.invoked other
  · rw [dispatched, tasks]
    exact wellFormed.once other
  · rw [dispatched, tasks] at pending
    obtain ⟨bound, free, open'⟩ := wellFormed.ready other pending
    rw [nextOp, acceptOp, old bound]
    exact ⟨by omega, free, open'⟩
  · rw [acceptOp] at stored
    obtain ⟨bound, open'⟩ := wellFormed.stored other stored
    rw [nextOp, old bound]
    exact ⟨by omega, open'⟩
  · rw [acceptOp, state]
    exact wellFormed.open'
  · rcases waited other waits with earlier | ⟨-, -, now⟩
    · rcases starting with same | ⟨-, now⟩
      · exact same ▸ before other earlier
      · exact now
    · exact now
  · have clash (index : Nat) (earlier : s.Waiting index) (idle : s.startPending = false) : False := by
      have busy := before index earlier
      rw [idle] at busy
      contradiction
    rcases waited other waits with earlier | ⟨first, idle, -⟩
    · rcases waited another also with other' | ⟨-, idle, -⟩
      · exact wellFormed.single other another earlier other'
      · exact (clash other earlier idle).elim
    · rcases waited another also with other' | ⟨second, -, -⟩
      · exact (clash another other' idle).elim
      · rw [first, second]
  · rw [client, state]
    exact wellFormed.attached
  · rw [requests] at mem
    rw [nextOp, dispatched, tasks]
    obtain ⟨bound, none⟩ := wellFormed.requested request mem op kind
    exact ⟨by omega, none⟩

theorem dispatch {work : AcceptorWork}
    (ready : ∀ op, work = .asyncAcceptInternal op → s.Ready op) :
    ({ s with tasks := s.tasks ++ [work] } : Acceptor).WellFormed := by
  have count (op : Nat) : ({ s with tasks := s.tasks ++ [work] } : Acceptor).dispatched op =
      s.dispatched op + if work = .asyncAcceptInternal op then 1 else 0 := by
    simp [dispatched, List.countP_append, List.countP_singleton]
  refine ⟨wellFormed.unused, wellFormed.invoked, fun op => ?_, fun op pending => ?_,
    wellFormed.stored, wellFormed.open', wellFormed.admitted, wellFormed.starting,
    fun op waits => wellFormed.waiting op ⟨waits.reserved, waits.pending, waits.absent⟩,
    fun op other waits also => wellFormed.single op other
      ⟨waits.reserved, waits.pending, waits.absent⟩ ⟨also.reserved, also.pending, also.absent⟩,
    wellFormed.attached, fun request mem op kind => ?_⟩
  · rw [count]
    split
    · rename_i same
      have none := (ready op same).consumed
      omega
    · exact wellFormed.once op
  · rw [count] at pending
    by_cases same : work = .asyncAcceptInternal op
    · have fresh := ready op same
      exact ⟨fresh.allocated, fresh.absent, fresh.open'⟩
    · rw [if_neg same] at pending
      exact wellFormed.ready op pending
  · obtain ⟨bound, none⟩ := wellFormed.requested request mem op kind
    refine ⟨bound, ?_⟩
    rw [count, none, if_neg]
    intro same
    exact (ready op same).unrequested request mem kind

end

end WellFormed

theorem invocations_of_other {output : AcceptorOutput}
    (other : ∀ op, output.completes op = false) (log : t.log = s.log ++ [output]) (op : Nat) :
    t.invocations op = s.invocations op := by
  rw [invocations, log, List.countP_append, List.countP_singleton, other op]
  rfl

theorem completes_of_isNotice {output : AcceptorOutput} (notice : output.isNotice = true)
    (op : Nat) : output.completes op = false := by
  cases output with
  | completed _ _ => contradiction
  | _ => rfl

namespace WellFormed

/-- The start consumes the reservation of the operation it stores. -/
theorem start (wellFormed : s.WellFormed) {op : Nat} (free : s.acceptOp = none)
    (ready : s.Ready op) (uncancelled : (s.ops op).cancelled = false)
    (reserved : (s.ops op).reserved = true) :
    (({ s with
        startPending := false, endpoint := (s.ops op).initialEndpoint, state := .idle
        client := some s.clients, clients := s.clients + 1, acceptOp := some op } :
      Acceptor).emit (.makeClient s.settings.config)).WellFormed := by
  have pending : (s.ops op).completed = false := by
    cases completed : (s.ops op).completed with
    | false => rfl
    | true =>
      have cancelled := (ready.open' completed).1
      rw [uncancelled] at cancelled
      contradiction
  have waits : s.Waiting op := ⟨reserved, pending, by simp [free]⟩
  have starting := wellFormed.waiting op waits
  have admitted := wellFormed.admitted.mpr (.inr starting)
  -- the same start without the store
  have begun : (({ s with
      startPending := false, endpoint := (s.ops op).initialEndpoint, state := .idle
      client := some s.clients, clients := s.clients + 1, acceptOp := some op } :
        Acceptor).emit (.makeClient s.settings.config)).Waiting = fun _ => False := by
    funext other
    refine propext ⟨fun also => ?_, False.elim⟩
    have same := wellFormed.single other op ⟨also.reserved, also.pending, by simp [free]⟩ waits
    exact also.absent (congrArg some same.symm)
  refine ⟨wellFormed.unused, fun other => ?_, wellFormed.once, fun other dispatched => ?_,
    fun other stored => ?_, by simp, by simpa using admitted, by simp, ?_, ?_, by simp,
    wellFormed.requested⟩
  · rw [invocations_of_other (fun _ => rfl) rfl]
    exact wellFormed.invoked other
  · obtain ⟨bound, -, open'⟩ := wellFormed.ready other dispatched
    refine ⟨bound, ?_, open'⟩
    rintro ⟨⟩
    have none := ready.consumed
    have some : 0 < s.dispatched op := dispatched
    omega
  · cases stored
    exact ⟨ready.allocated, pending⟩
  · rw [begun]
    exact fun _ impossible => impossible.elim
  · rw [begun]
    exact fun _ _ impossible => impossible.elim

/-- The close completes the operation that is stored. -/
theorem close (wellFormed : s.WellFormed) (running : s.state ≠ .null) (errorCode : ErrorCode) :
    ((s.cleared errorCode).dropAccept errorCode).WellFormed := by
  have none (other : Nat) : ¬s.Waiting other :=
    fun waits => running (wellFormed.starting (wellFormed.waiting other waits))
  cases stored : s.acceptOp with
  | none =>
    rw [dropAccept, cleared_acceptOp, stored]
    refine wellFormed.of_eq rfl rfl rfl rfl (invocations_of_other (fun _ => rfl) rfl) ?_ (by simp)
      (fun _ => rfl) (fun other waits => absurd waits (none other)) (by simp) wellFormed.requested
    simp [stored]
  | some op =>
    have finished : (({ s with acceptOp := Option.none } : Acceptor).completeAccept op
        (errorCode.orElse Error.Code.operationAborted)).WellFormed :=
      wellFormed.finish _ stored
    have pending := (wellFormed.stored op stored).2
    rw [completeAccept_of_pending (s := { s with acceptOp := Option.none }) pending] at finished
    rw [dropAccept_eq (s := s.cleared errorCode) stored,
      completeAccept_of_pending (s := { s.cleared errorCode with acceptOp := Option.none }) pending]
    refine finished.of_eq rfl rfl rfl rfl (fun other => ?_) (by simp) (by simp) (fun _ => rfl)
      (fun other waits => ?_) (by simp) wellFormed.requested
    · simp [invocations, AcceptorOutput.completes]
    · have earlier : s.Waiting other := by
        have done : ((({ s with acceptOp := Option.none } : Acceptor).modifyOp op
            fun o => { o with completed := true }).ops op).completed = true := by simp
        have others : ∀ index, index ≠ op → (({ s with acceptOp := Option.none } :
            Acceptor).modifyOp op fun o => { o with completed := true }).ops index =
              s.ops index :=
          fun index different => update_of_ne different _ _
        obtain ⟨different, -⟩ := waiting_of_completed (s := { s with acceptOp := Option.none })
          waits others done (by simp)
        refine (waiting_of_completed waits others done ?_).2
        rw [stored]
        exact fun same => different (Option.some_inj.mp same).symm
      exact absurd earlier (none other)

end WellFormed

/-- Every effect keeps the state well-formed. -/
theorem Effect.wellFormed (effect : Effect area s t) (wellFormed : s.WellFormed) :
    t.WellFormed := by
  -- a change of nothing the invariant reads
  have other (same : ∀ op, t.invocations op = s.invocations op) (ops : t.ops = s.ops)
      (nextOp : t.nextOp = s.nextOp) (tasks : t.tasks = s.tasks)
      (acceptOp : t.acceptOp = s.acceptOp) (isStateNonNull : t.isStateNonNull = s.isStateNonNull)
      (startPending : t.startPending = s.startPending) (client : t.client = s.client)
      (state : t.state = .null ↔ s.state = .null)
      (requested : ∀ request ∈ t.requests, ∀ op, request.kind = .accept op →
        op < s.nextOp ∧ s.dispatched op = 0) :
      t.WellFormed :=
    wellFormed.of_running ops nextOp tasks acceptOp same isStateNonNull startPending client state
      requested
  -- a request that was just made
  have asked {request : Request}
      (known : ∀ op, request.kind = .accept op → op < s.nextOp ∧ s.dispatched op = 0) :
      ∀ request' ∈ s.requests ++ [request], ∀ op, request'.kind = .accept op →
        op < s.nextOp ∧ s.dispatched op = 0 := by
    intro request' mem
    rcases List.mem_append.mp mem with before | new
    · exact wellFormed.requested request' before
    · rw [List.mem_singleton.mp new]
      exact known
  cases effect with
  | notice plain =>
    exact other (invocations_of_other (completes_of_isNotice plain) rfl) rfl rfl rfl rfl rfl rfl
      rfl Iff.rfl wellFormed.requested
  | settle absent known allocated => exact wellFormed.settle _ absent known allocated
  | finish cause stored idle explains => exact wellFormed.finish _ stored
  | release null reserved pending absent starting =>
    exact wellFormed.release null ⟨reserved, pending, absent⟩
  | store running free ready uncancelled => exact wellFormed.store running free ready uncancelled
  | accept connected stored idle held =>
    rename_i op tunnel
    have changed : (s.modifyOp op fun o =>
        { o with
          accepting := true
          bound := some (tunnel.client, s.operations tunnel.client) }).WellFormed :=
      wellFormed.modifyOp (wellFormed.stored op stored).1 (fun _ => rfl) (fun _ same => same)
        fun _ => rfl
    refine changed.of_running rfl rfl rfl rfl (invocations_of_other (fun _ => rfl) rfl) rfl rfl rfl
      Iff.rfl (asked fun other kind => ?_)
    cases kind
    refine ⟨(wellFormed.stored op stored).1, ?_⟩
    by_contra dispatched
    exact (wellFormed.ready op (Nat.pos_of_ne_zero dispatched)).2.1 stored
  | start null free ready uncancelled reserved =>
    rename_i op
    exact wellFormed.start free ready uncancelled reserved
  | begin idle attached =>
    exact other (invocations_of_other (fun _ => rfl) rfl) rfl rfl rfl rfl rfl rfl rfl
      (by simp [idle]) (asked fun _ kind => by contradiction)
  | close running => exact wellFormed.close running _
  | opened connecting | failed connecting =>
    exact other (fun _ => rfl) rfl rfl rfl rfl rfl rfl rfl (by simp [connecting])
      wellFormed.requested
  | disconnected connected =>
    exact other (fun _ => rfl) rfl rfl rfl rfl rfl rfl rfl (by simp [connected])
      wellFormed.requested
  | create connected attached =>
    exact other (invocations_of_other (fun _ => rfl) rfl) rfl rfl rfl rfl rfl rfl rfl Iff.rfl
      (asked fun _ kind => by contradiction)
  | cancelled live =>
    rename_i op
    have used : s.ops op ≠ {} := by
      intro initial
      rw [initial] at live
      contradiction
    exact wellFormed.modifyOp (wellFormed.allocated_of_ne used) (fun _ => rfl) (fun _ _ => rfl)
      fun _ => rfl
  | allocate cancelled completed accepting reserved =>
    exact wellFormed.allocate _ completed (.inl rfl) (.inl reserved) rfl wellFormed.admitted
      wellFormed.starting
  | reserve free idle bound origin =>
    rename_i peer endpoint
    have null : s.state = .null := by
      by_contra running
      have busy := wellFormed.admitted.mpr (.inl running)
      rw [free] at busy
      contradiction
    exact wellFormed.allocate
      (fun o => { o with initialEndpoint := endpoint, reserved := true, live := true, peer := peer })
      (fun _ => rfl) (.inr ⟨idle, rfl⟩) (.inr ⟨idle, rfl⟩) rfl (by simp) fun _ => null
  | dispatch ready => exact wellFormed.dispatch ready
  | _ => exact other (fun _ => rfl) rfl rfl rfl rfl rfl rfl rfl Iff.rfl wellFormed.requested

theorem Effects.wellFormed {areas : List Area} (effects : Effects areas s t)
    (wellFormed : s.WellFormed) : t.WellFormed :=
  effects.invariant (fun _ effect => effect.wellFormed) wellFormed

theorem wellFormed_initial : ({} : Acceptor).WellFormed := by
  refine ⟨fun _ _ => rfl, fun _ => rfl, fun _ => Nat.zero_le _, fun _ pending => ?_,
    fun _ stored => ?_, by simp, by simp, by simp, fun _ waits => ?_, fun _ _ waits => ?_, by simp,
    by simp⟩
  · contradiction
  · contradiction
  · exact absurd waits.reserved (by simp)
  · exact absurd waits.reserved (by simp)

end Acceptor

end Rstream.IoRstrm
