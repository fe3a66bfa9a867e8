import Rstream.IoRstrm.Acceptor.WellFormed

/-!
# The handlers of the acceptor as effects

Every handler of a well-formed acceptor is a chain of effects. While the acceptor
is connecting or connected, a call that a callback makes does not move `m_state`;
from `state::null` and `state::idle` it may start, begin a connection or close.
-/

namespace Rstream.IoRstrm.Acceptor

open Library (Chain)

variable {s t : Acceptor}

/-! ## Connecting and accepting -/

theorem doConnect_effects (attached : s.state ≠ .null → s.client.isSome = true)
    (oracle : AcceptorOracle) :
    Effects [.quiet, .beginning, .closing] s (s.doConnect oracle) := by
  unfold doConnect
  by_cases idle : s.state = .idle
  · rw [if_neg (by simp [idle])]
    obtain ⟨client, found⟩ := Option.isSome_iff_exists.mp (attached (by simp [idle]))
    dsimp only
    split
    · rename_i none
      rw [found] at none
      contradiction
    rename_i other also
    rw [found, Option.some_inj] at also
    subst also
    split
    · -- the refusal closes the acceptor from `state::connecting`, as it would from `state::idle`
      have same : ({ s with state := .connecting } : Acceptor).onError Error.Code.invalidState =
          s.onError Error.Code.invalidState := by
        simp only [onError, onClose, idle, Error.Code.failed_toErrorCode]
        rfl
      have closed : Effects [.quiet, .closing] s (s.onError Error.Code.invalidState) :=
        onError_effects s _
      rw [same]
      exact closed.mono (by simp)
    · exact .single (.begin idle found) (by simp)
  · rw [if_pos idle]
    exact .refl

theorem doAccept_effects (s : Acceptor) : Effects [.quiet] s s.doAccept := by
  unfold doAccept
  split
  · exact .refl
  · rename_i op stored
    by_cases refused : s.state ≠ .connected ∨ s.closing ∨ (s.ops op).completed ∨ (s.ops op).accepting
    · rw [if_pos refused]
      exact .refl
    · rw [if_neg refused]
      simp only [not_or, not_not] at refused
      obtain ⟨connected, -, -, idle⟩ := refused
      split
      · exact .single (.notice rfl) (by simp)
      · rename_i tunnel held
        exact .single (.accept connected stored (by simpa using idle) held) (by simp)

theorem releaseAcceptReservation_effects {op : Nat} (pending : (s.ops op).completed = false)
    (absent : s.acceptOp ≠ some op) :
    Effects [.quiet] s (s.releaseAcceptReservation op) := by
  unfold releaseAcceptReservation
  split
  · exact .refl
  · rename_i kept
    simp only [not_or, not_not] at kept
    split
    · rename_i starting
      exact .single (.release kept.2 kept.1 pending absent starting) (by simp)
    · exact .refl

/-- What `release_accept_reservation` changes. -/
theorem releaseAcceptReservation_frame (s : Acceptor) (op : Nat) :
    ∃ ops startPending isStateNonNull, s.releaseAcceptReservation op =
        { s with ops := ops, startPending := startPending, isStateNonNull := isStateNonNull } ∧
      ∀ other, (ops other).cancelled = (s.ops other).cancelled := by
  unfold releaseAcceptReservation
  split
  · exact ⟨_, _, _, rfl, fun _ => rfl⟩
  · split
    · refine ⟨_, _, _, rfl, fun other => ?_⟩
      by_cases same : other = op
      · simp [same]
      · simp [same]
    · exact ⟨_, _, _, rfl, fun _ => rfl⟩

/-- A reservation that waits for its start is given back. -/
theorem releaseAcceptReservation_reserved (wellFormed : s.WellFormed) {op : Nat}
    (pending : (s.ops op).completed = false) (absent : s.acceptOp ≠ some op) :
    ((s.releaseAcceptReservation op).ops op).reserved = false := by
  unfold releaseAcceptReservation
  cases reserved : (s.ops op).reserved with
  | false =>
    rw [if_pos (.inl (by simp))]
    exact reserved
  | true =>
    have starting := wellFormed.waiting op ⟨reserved, pending, absent⟩
    have null := wellFormed.starting starting
    simp [starting, null]

theorem abandon_effects (wellFormed : s.WellFormed) {op : Nat} (absent : s.acceptOp ≠ some op)
    (cancelled : (s.ops op).cancelled = true) (allocated : op < s.nextOp)
    (open' : (s.ops op).completed = true → (s.ops op).reserved = false) :
    Effects [.quiet] s ((s.releaseAcceptReservation op).completeAccept op .operationAborted) := by
  cases completed : (s.ops op).completed with
  | false =>
    have released := releaseAcceptReservation_effects completed absent
    have free := releaseAcceptReservation_reserved wellFormed completed absent
    obtain ⟨ops, startPending, isStateNonNull, framed, kept⟩ :=
      releaseAcceptReservation_frame s op
    rw [framed] at released free ⊢
    refine released.trans (.single (.settle absent (.inr ⟨?_, free⟩) allocated) (by simp))
    exact (kept op).trans cancelled
  | true =>
    have kept : s.releaseAcceptReservation op = s := if_pos (.inl (by simp [open' completed]))
    rw [kept, completeAccept_of_completed completed]
    exact .refl

/-- `async_accept_internal` begins a connection for the operation. -/
def Starts (s : Acceptor) (op : Nat) : Prop :=
  (s.ops op).cancelled = false ∧ (s.ops op).initiationError.failed = false ∧ s.acceptOp = none ∧
    (s.state = .idle ∨ s.state = .null ∧ (s.ops op).reserved = true)

/-- The start of an accept operation: it is refused or stored, or it is stored and a
connection is begun for it. -/
theorem asyncAcceptInternal_cases (wellFormed : s.WellFormed) {op : Nat} (ready : s.Ready op)
    (oracle : AcceptorOracle) :
    Effects [.quiet] s (s.asyncAcceptInternal op oracle) ∨
      s.Starts op ∧ ∃ u, Effects [.quiet, .starting] s u ∧ u.client.isSome = true ∧
        s.asyncAcceptInternal op oracle = u.doConnect oracle := by
  have refused (errorCode : ErrorCode) : Effects [.quiet] s (s.completeAccept op errorCode) :=
    .single (.settle ready.absent (.inl ready.consumed) ready.allocated) (by simp)
  unfold asyncAcceptInternal
  by_cases cancelled : (s.ops op).cancelled = true
  · rw [if_pos cancelled]
    exact .inl (abandon_effects wellFormed ready.absent cancelled ready.allocated
      fun completed => (ready.open' completed).2)
  rw [if_neg cancelled]
  have uncancelled : (s.ops op).cancelled = false := by simpa using cancelled
  unfold admitAccept
  dsimp only
  by_cases failed : (s.ops op).initiationError.failed = true
  · simp only [if_pos failed]
    exact .inl (refused _)
  simp only [if_neg failed]
  have initiated : (s.ops op).initiationError.failed = false := by simpa using failed
  by_cases busy : s.acceptOp.isSome = true
  · simp only [if_pos busy, Error.Code.failed_toErrorCode]
    exact .inl (refused _)
  simp only [if_neg busy]
  have free : s.acceptOp = none := by simpa using busy
  by_cases null : s.state = .null
  · simp only [if_pos null]
    by_cases reserved : (s.ops op).reserved = true
    · have detached : s.client = none := by
        have attached := wellFormed.attached
        simpa [null] using attached
      simp only [if_neg (not_not.mpr reserved), ErrorCode.failed_none, Bool.false_eq_true, if_false,
        ensureClient, detached, emit_state, if_true]
      exact .inr ⟨⟨uncancelled, initiated, free, .inr ⟨null, reserved⟩⟩, _,
        .single (.start null free ready uncancelled reserved) (by simp), rfl, rfl⟩
    · simp only [if_pos reserved, Error.Code.failed_toErrorCode]
      exact .inl (refused _)
  · have attached := wellFormed.attached.mpr null
    have kept : s.ensureClient = s := by
      obtain ⟨client, found⟩ := Option.isSome_iff_exists.mp attached
      simp only [ensureClient, found]
    simp only [if_neg null, ErrorCode.failed_none, Bool.false_eq_true, if_false, kept]
    have stored : Effects [.quiet] s { s with acceptOp := some op } :=
      .single (.store null free ready uncancelled) (by simp)
    split
    · rename_i idle
      exact .inr ⟨⟨uncancelled, initiated, free, .inl idle⟩, _, stored.mono (by simp), attached,
        rfl⟩
    · split
      · exact .inl (stored.trans (doAccept_effects _))
      · exact .inl stored

theorem asyncAcceptInternal_effects (wellFormed : s.WellFormed) {op : Nat} (ready : s.Ready op)
    (oracle : AcceptorOracle) :
    Effects [.quiet, .starting, .beginning, .closing] s (s.asyncAcceptInternal op oracle) ∧
      (s.state ≠ .null → s.state ≠ .idle → Effects [.quiet] s (s.asyncAcceptInternal op oracle)) := by
  rcases asyncAcceptInternal_cases wellFormed ready oracle with
    quiet | ⟨starts, u, stored, attached, connects⟩
  · exact ⟨quiet.mono (by simp), fun _ _ => quiet⟩
  · have connected : Effects [.quiet, .beginning, .closing] u (u.doConnect oracle) :=
      doConnect_effects (fun _ => attached) oracle
    rw [connects]
    refine ⟨(stored.mono (by simp)).trans (connected.mono (by simp)), fun running opened => ?_⟩
    rcases starts.2.2.2 with idle | ⟨null, -⟩
    · exact absurd idle opened
    · exact absurd null running

theorem cancelAccept_effects (wellFormed : s.WellFormed) (op : Nat) :
    Effects [.quiet] s (s.cancelAccept op) := by
  unfold cancelAccept
  split
  · exact .refl
  · rename_i open'
    simp only [not_or, not_not] at open'
    obtain ⟨cancelled, pending⟩ := open'
    have used : s.ops op ≠ {} := by
      intro initial
      rw [initial] at cancelled
      contradiction
    split
    · rename_i absent
      exact abandon_effects wellFormed absent cancelled (wellFormed.allocated_of_ne used)
        fun completed => absurd completed pending
    · rename_i stored
      rw [not_not] at stored
      split
      · unfold emitCancellation
        split
        · exact .refl
        · exact .single (.notice rfl) (by simp)
      · rename_i idle
        have finished : Effect Cause.cancelled.area s _ :=
          .finish .cancelled stored (by simpa using idle) ⟨cancelled, rfl⟩
        exact .single finished (by simp [Cause.area])

theorem closeInternal_effects (s : Acceptor) :
    Effects [.calling, .quiet, .closing] s s.closeInternal ∧
      (s.state ≠ .null → s.state ≠ .idle → Effects [.calling, .quiet] s s.closeInternal) := by
  unfold closeInternal
  split
  · rename_i null
    exact ⟨.single .closing (by simp), fun running => absurd null running⟩
  · split
    · rename_i idle
      exact ⟨(onClose_effects s .none).mono (by simp), fun _ other => absurd idle other⟩
    · exact ⟨(closeClient_effects s).mono (by simp), fun _ _ => (closeClient_effects s).mono (by simp)⟩

/-! ## Calls -/

section

variable (wellFormed : s.WellFormed)

include wellFormed

/-- The operation object that a call is about to allocate is in no use. -/
theorem WellFormed.ready_allocated (nextOp : t.nextOp = s.nextOp + 1)
    (tasks : t.tasks = s.tasks) (acceptOp : t.acceptOp = s.acceptOp)
    (requests : t.requests = s.requests)
    (pending : (t.ops s.nextOp).completed = (s.ops s.nextOp).completed) : t.Ready s.nextOp := by
  refine ⟨by omega, ?_, ?_, fun request mem kind => ?_, fun completed => ?_⟩
  · by_contra dispatched
    rw [Acceptor.dispatched, tasks] at dispatched
    have bound := (wellFormed.ready s.nextOp (Nat.pos_of_ne_zero dispatched)).1
    omega
  · rw [acceptOp]
    intro stored
    have bound := (wellFormed.stored s.nextOp stored).1
    omega
  · rw [requests] at mem
    have bound := (wellFormed.requested request mem s.nextOp kind).1
    omega
  · rw [pending, wellFormed.unused s.nextOp (Nat.le_refl _)] at completed
    contradiction

theorem reserveAccept_effects (peer : PeerId) :
    Effects [.calling] s (s.reserveAccept peer) ∧ (s.reserveAccept peer).Ready s.nextOp := by
  -- an operation object without a reservation
  have allocated (change : AcceptOp → AcceptOp)
      (cancelled : ∀ o, (change o).cancelled = o.cancelled)
      (completed : ∀ o, (change o).completed = o.completed)
      (accepting : ∀ o, (change o).accepting = o.accepting)
      (reserved : ∀ o, (change o).reserved = o.reserved) :
      Effects [.calling] s
        { s.modifyOp s.nextOp (fun o => { change o with live := true, peer := peer }) with
          nextOp := s.nextOp + 1 } ∧
      ({ s.modifyOp s.nextOp (fun o => { change o with live := true, peer := peer }) with
          nextOp := s.nextOp + 1 } : Acceptor).Ready s.nextOp :=
    ⟨.single (.allocate cancelled completed accepting reserved) (by simp),
      wellFormed.ready_allocated rfl rfl rfl rfl (by simp [completed])⟩
  unfold reserveAccept
  dsimp only
  split
  · exact allocated (fun o => { o with initiationError := Error.Code.operationInProgress })
      (fun _ => rfl) (fun _ => rfl) (fun _ => rfl) (fun _ => rfl)
  · rename_i idle
    split
    · exact allocated id (fun _ => rfl) (fun _ => rfl) (fun _ => rfl) (fun _ => rfl)
    · rename_i free
      split
      · exact allocated (fun o => { o with initiationError := Error.Code.noValidEndpoint })
          (fun _ => rfl) (fun _ => rfl) (fun _ => rfl) (fun _ => rfl)
      · rename_i endpoint bound
        split
        · exact allocated
            (fun o => { o with
              initialEndpoint := endpoint, initiationError := Error.Code.invalidConfiguration })
            (fun _ => rfl) (fun _ => rfl) (fun _ => rfl) (fun _ => rfl)
        · rename_i origin
          refine ⟨.single (.reserve (by simpa using free) (by simpa using idle) bound ?_) (by simp),
            wellFormed.ready_allocated rfl rfl rfl rfl (by simp)⟩
          intro uri
          by_contra neither
          simp only [not_or] at neither
          exact origin ⟨uri, neither.1, neither.2⟩

theorem issue_effects (call : AcceptorCall) :
    Effects [.calling] s (s.issue call).1 ∧
      ∀ op, (s.issue call).2 = some (.asyncAcceptInternal op) → (s.issue call).1.Ready op := by
  cases call with
  | setControlCallbacks callbacks =>
    refine ⟨?_, by simp [issue]⟩
    simp only [issue]
    split
    · exact .refl
    · rename_i free
      exact .single (.callbacks (by simpa using free)) (by simp)
  | settings settings =>
    refine ⟨?_, by simp [issue]⟩
    simp only [issue]
    split
    · exact .refl
    · rename_i free
      exact .single (.settings (by simpa using free)) (by simp)
  | bind endpoint =>
    refine ⟨?_, by simp [issue]⟩
    simp only [issue]
    split
    · exact .refl
    · rename_i free
      exact .single (.bind (by simpa using free)) (by simp)
  | asyncAccept peer =>
    obtain ⟨effects, ready⟩ := reserveAccept_effects wellFormed peer
    refine ⟨effects, fun op dispatched => ?_⟩
    cases dispatched
    exact ready
  | close =>
    simp only [issue]
    split
    · exact ⟨.refl, by simp⟩
    · exact ⟨.single .closing (by simp), by simp⟩
  | cancel op =>
    simp only [issue]
    split
    · rename_i live
      exact ⟨.single (.cancelled live) (by simp), by simp⟩
    · exact ⟨.refl, by simp⟩

theorem call_effects (call : AcceptorCall) :
    Effects [.calling] s (s.call call) := by
  obtain ⟨issued, ready⟩ := issue_effects wellFormed call
  unfold Acceptor.call
  cases dispatched : (s.issue call).2 with
  | none => exact issued
  | some work =>
    refine issued.trans (.single (.dispatch fun op same => ?_) (by simp))
    exact ready op (by rw [dispatched, same])

end

/-- The areas of the calls that a callback makes. -/
def callAreas : List Area := [.calling, .quiet, .starting, .beginning, .closing]

theorem perform_effects (wellFormed : s.WellFormed) {work : AcceptorWork}
    (ready : ∀ op, work = .asyncAcceptInternal op → s.Ready op) (oracle : AcceptorOracle) :
    Effects callAreas s (s.perform work oracle) ∧
      (s.state ≠ .null → s.state ≠ .idle → Effects [.calling, .quiet] s (s.perform work oracle)) := by
  cases work with
  | asyncAcceptInternal op =>
    obtain ⟨effects, quiet⟩ := asyncAcceptInternal_effects wellFormed (ready op rfl) oracle
    exact ⟨effects.mono (by simp [callAreas]),
      fun running opened => (quiet running opened).mono (by simp)⟩
  | cancelAccept op =>
    have effects := cancelAccept_effects wellFormed op
    exact ⟨effects.mono (by simp [callAreas]), fun _ _ => effects.mono (by simp)⟩
  | closeInternal =>
    obtain ⟨effects, quiet⟩ := closeInternal_effects s
    exact ⟨effects.mono (by simp [callAreas]), quiet⟩

/-- Calls and quiet changes keep `m_state`. -/
theorem Effect.state_of_quiet {area : Area} (effect : Effect area s t)
    (quiet : area ∈ [.calling, .quiet, .accepted, .tunnel]) : t.state = s.state := by
  have completed (u : Acceptor) (op : Nat) (errorCode : ErrorCode) :
      (u.completeAccept op errorCode).state = u.state := by
    obtain ⟨ops, log, framed, -⟩ := completeAccept_frame u op errorCode
    rw [framed]
  cases effect with
  | settle _ _ _ | finish _ _ _ _ => exact completed _ _ _
  | start _ _ _ _ _ | begin _ _ | close _ | opened _ | failed _ | disconnected _ => simp at quiet
  | _ => rfl

theorem Effects.state_of_quiet {areas : List Area} (effects : Effects areas s t)
    (quiet : areas ⊆ [.calling, .quiet, .accepted, .tunnel]) : t.state = s.state := by
  refine effects.invariant (p := fun u => u.state = s.state) ?_ rfl
  intro area u v mem effect same
  exact (effect.state_of_quiet (quiet mem)).trans same

section

variable (wellFormed : s.WellFormed)

include wellFormed

theorem callOnStrand_effects (oracle : AcceptorOracle)
    (call : AcceptorCall) :
    Effects callAreas s (s.callOnStrand oracle call) ∧
      (s.state ≠ .null → s.state ≠ .idle →
        Effects [.calling, .quiet] s (s.callOnStrand oracle call)) := by
  obtain ⟨issued, ready⟩ := issue_effects wellFormed call
  unfold callOnStrand
  cases dispatched : (s.issue call).2 with
  | none => exact ⟨issued.mono (by simp [callAreas]), fun _ _ => issued.mono (by simp)⟩
  | some work =>
    have state := issued.state_of_quiet (by simp)
    have starts : ∀ op, work = .asyncAcceptInternal op → (s.issue call).1.Ready op :=
      fun op same => ready op (by rw [dispatched, same])
    obtain ⟨effects, quiet⟩ := perform_effects (issued.wellFormed wellFormed) starts oracle
    rw [state] at quiet
    exact ⟨(issued.mono (by simp [callAreas])).trans effects,
      fun running opened => (issued.mono (by simp)).trans (quiet running opened)⟩

theorem callsOnStrand_effects (oracle : AcceptorOracle)
    (calls : List AcceptorCall) :
    Effects callAreas s (calls.foldl (callOnStrand oracle) s) ∧
      (s.state ≠ .null → s.state ≠ .idle →
        Effects [.calling, .quiet] s (calls.foldl (callOnStrand oracle) s)) := by
  induction calls generalizing s with
  | nil => exact ⟨.refl, fun _ _ => .refl⟩
  | cons call calls ih =>
    obtain ⟨first, quiet⟩ := callOnStrand_effects wellFormed oracle call
    obtain ⟨rest, later⟩ := ih (first.wellFormed wellFormed)
    refine ⟨first.trans rest, fun running opened => ?_⟩
    have state := (quiet running opened).state_of_quiet (by simp)
    rw [state] at later
    exact (quiet running opened).trans (later running opened)

theorem notify_effects (status : StatusExtd) (oracle : AcceptorOracle)
    (calls : List AcceptorCall) :
    Effects callAreas s (s.notify status oracle calls) ∧
      (s.state ≠ .null → s.state ≠ .idle →
        Effects [.calling, .quiet] s (s.notify status oracle calls)) := by
  have noted : Effects [.quiet] s { s with status := status } := .single .status (by simp)
  unfold notify
  dsimp only
  split
  · have told : Effects [.quiet] s (({ s with status := status } : Acceptor).emit (.status status)) :=
      noted.trans (.single (.notice rfl) (by simp))
    obtain ⟨effects, quiet⟩ := callsOnStrand_effects (told.wellFormed wellFormed) oracle calls
    exact ⟨(told.mono (by simp [callAreas])).trans effects,
      fun running opened => (told.mono (by simp)).trans (quiet running opened)⟩
  · exact ⟨noted.mono (by simp [callAreas]), fun _ _ => noted.mono (by simp)⟩

theorem notifyProperties_effects (connected : s.state = .connected)
    (properties : TunnelProperties) (oracle : AcceptorOracle) (calls : List AcceptorCall) :
    Effects [.calling, .quiet] s (s.notifyProperties properties oracle calls) := by
  unfold notifyProperties
  split
  · have told : Effects [.calling, .quiet] s (s.emit (.tunnelProperties properties)) :=
      .single (.notice rfl) (by simp)
    obtain ⟨-, quiet⟩ := callsOnStrand_effects (told.wellFormed wellFormed) oracle calls
    exact told.trans (quiet (by simp [connected]) (by simp [connected]))
  · exact .refl

end

/-! ## Completions and notifications -/

def handlerAreas : List Area := .turning :: .tunnel :: callAreas

theorem callAreas_subset : callAreas ⊆ handlerAreas := by
  simp [handlerAreas, callAreas]

theorem quiet_subset : [.calling, .quiet] ⊆ handlerAreas := by
  simp [handlerAreas, callAreas]

theorem doReconnect_effects (s : Acceptor) : Effects [.turning] s s.doReconnect := by
  unfold doReconnect
  split
  · exact .refl
  · rename_i idle
    exact .single (.rearm (not_not.mp idle)) (by simp)

theorem doRecreateTunnel_effects (s : Acceptor) : Effects [.tunnel] s s.doRecreateTunnel := by
  unfold doRecreateTunnel
  split
  · exact .refl
  · rename_i open'
    simp only [not_or, not_not] at open'
    exact .single (.recreate open'.1) (by simp)

theorem doCreateTunnel_effects (s : Acceptor) (oracle : AcceptorOracle) :
    Effects [.quiet, .tunnel] s (s.doCreateTunnel oracle) := by
  unfold doCreateTunnel
  split
  · exact .refl
  · rename_i open'
    simp only [not_or, not_not] at open'
    split
    · exact .single (.notice rfl) (by simp)
    · rename_i client attached
      exact .single (.create open'.1 attached) (by simp)

theorem onConnect_effects (host : Host) (wellFormed : s.WellFormed) (errorCode : ErrorCode)
    (oracle : AcceptorOracle) (calls : List AcceptorCall) :
    Effects handlerAreas s (s.onConnect host errorCode oracle calls) := by
  unfold onConnect
  split
  · exact .refl
  rename_i connecting
  rw [not_not] at connecting
  split
  · exact (onClose_effects s .none).mono (by simp [handlerAreas, callAreas])
  split
  · split
    · have failed : Effects handlerAreas s { s with state := .idle } :=
        .single (.failed connecting) (by simp [handlerAreas])
      obtain ⟨notified, -⟩ := notify_effects (failed.wellFormed wellFormed)
        (s.statusOf (errorText host "connection failed" errorCode)) oracle calls
      exact (failed.trans (notified.mono callAreas_subset)).trans
        ((doReconnect_effects _).mono (by simp [handlerAreas]))
    · exact (onError_effects s errorCode).mono (by simp [handlerAreas, callAreas])
  · have opened : Effects handlerAreas s { s with state := .connected } :=
      .single (.opened connecting) (by simp [handlerAreas])
    obtain ⟨notified, -⟩ := notify_effects (opened.wellFormed wellFormed)
      (s.statusOf "connected") oracle calls
    exact (opened.trans (notified.mono callAreas_subset)).trans
      ((doCreateTunnel_effects _ oracle).mono (by simp [handlerAreas, callAreas]))

/-- The areas of the handlers of an open connection. -/
def openAreas : List Area := [.calling, .quiet, .tunnel, .closing]

theorem openAreas_subset : openAreas ⊆ handlerAreas := by
  simp [openAreas, handlerAreas, callAreas]

theorem onCreateTunnelFailed_effects (host : Host) (wellFormed : s.WellFormed)
    (connected : s.state = .connected) (errorCode : ErrorCode) (oracle : AcceptorOracle)
    (calls : List AcceptorCall) :
    Effects openAreas s (s.onCreateTunnelFailed host errorCode oracle calls) := by
  obtain ⟨-, quiet⟩ := notify_effects wellFormed
    (s.statusOf (errorText host "tunnel creation failed" errorCode)) oracle calls
  have told : Effects openAreas s _ :=
    (quiet (by simp [connected]) (by simp [connected])).mono (by simp [openAreas])
  unfold onCreateTunnelFailed
  dsimp only
  split
  · exact told
  split
  · exact told.trans ((doRecreateTunnel_effects _).mono (by simp [openAreas]))
  · exact told.trans ((onError_effects _ errorCode).mono (by simp [openAreas]))

theorem onTunnelCreated_effects (wellFormed : s.WellFormed) (connected : s.state = .connected)
    (tunnel : TunnelHandle) (properties : TunnelProperties) (oracle : AcceptorOracle)
    (propertiesCalls calls : List AcceptorCall) :
    Effects [.calling, .quiet, .tunnel] s
      (s.onTunnelCreated tunnel properties oracle propertiesCalls calls) := by
  have held : Effects [.calling, .quiet, .tunnel] s { s with tunnel := some tunnel } :=
    .single (.hold connected) (by simp)
  have noted : Effects [.calling, .quiet, .tunnel] s
      (({ s with tunnel := some tunnel } : Acceptor).notifyProperties properties oracle
        propertiesCalls) :=
    held.trans ((notifyProperties_effects (held.wellFormed wellFormed) connected properties oracle
      propertiesCalls).mono (by simp))
  have still := (noted.state_of_quiet (by simp)).trans connected
  unfold onTunnelCreated
  dsimp only
  generalize ({ s with tunnel := some tunnel } : Acceptor).notifyProperties properties oracle
    propertiesCalls = u at noted still ⊢
  split
  · exact noted
  · obtain ⟨-, quiet⟩ := notify_effects (noted.wellFormed wellFormed)
      { u.statusOf "online" with
        tunnelId := properties.id, forwarding := formatForwardingAddress properties } oracle calls
    have told := noted.trans ((quiet (by simp [still]) (by simp [still])).mono (by simp))
    split
    · exact told
    · exact told.trans ((doAccept_effects _).mono (by simp))

theorem onCreateTunnel_effects (host : Host) (wellFormed : s.WellFormed) (client : Nat)
    (errorCode : ErrorCode) (value : Value) (oracle : AcceptorOracle)
    (propertiesCalls calls : List AcceptorCall) :
    Effects openAreas s
      (s.onCreateTunnel host client errorCode value oracle propertiesCalls calls) := by
  unfold onCreateTunnel
  split
  · exact .refl
  rename_i connected
  rw [not_not] at connected
  split
  · exact onCreateTunnelFailed_effects host wellFormed connected errorCode oracle calls
  split
  · exact (onTunnelCreated_effects wellFormed connected _ _ oracle propertiesCalls
      calls).mono (by simp [openAreas])
  · exact .single (.notice rfl) (by simp [openAreas])

theorem onAcceptFailed_effects (wellFormed : s.WellFormed) (connected : s.state = .connected)
    (errorCode : ErrorCode) (oracle : AcceptorOracle) (calls : List AcceptorCall) :
    Effects openAreas s (s.onAcceptFailed errorCode oracle calls) := by
  have dropped : Effects openAreas s { s with tunnel := none } :=
    .single (.drop connected) (by simp [openAreas])
  unfold onAcceptFailed
  dsimp only
  split
  · obtain ⟨-, quiet⟩ := notify_effects (dropped.wellFormed wellFormed)
      (({ s with tunnel := none } : Acceptor).statusOf "connected") oracle calls
    have told := dropped.trans
      ((quiet (by simp [connected]) (by simp [connected])).mono (by simp [openAreas]))
    exact told.trans ((doRecreateTunnel_effects _).mono (by simp [openAreas]))
  · exact dropped.trans ((onError_effects _ errorCode).mono (by simp [openAreas]))

/-- The end of an accept operation, stored or not. -/
theorem finishAccept_effects {op : Nat} {errorCode : ErrorCode} (cause : Cause)
    (explains : cause.Explains s op errorCode) (idle : (s.ops op).accepting = false)
    (consumed : s.dispatched op = 0) (allocated : op < s.nextOp) :
    Effects [.quiet, cause.area] s (s.finishAccept op errorCode) := by
  unfold finishAccept
  by_cases stored : s.acceptOp = some op
  · rw [if_pos stored]
    exact .single (.finish cause stored idle explains) (by simp)
  · rw [if_neg stored]
    exact .single (.settle stored (.inl consumed) allocated) (by simp)

theorem onTimerCb_effects (wellFormed : s.WellFormed) (oracle : AcceptorOracle) :
    Effects handlerAreas s (s.onTimerCb oracle) := by
  unfold onTimerCb
  split
  · exact .refl
  split
  · exact (doConnect_effects wellFormed.attached.mpr oracle).mono (by simp [handlerAreas, callAreas])
  split
  · exact (doCreateTunnel_effects s oracle).mono (by simp [handlerAreas, callAreas])
  · exact .refl

theorem onClientDisconnection_effects (host : Host) (wellFormed : s.WellFormed)
    (errorCode : ErrorCode) (oracle : AcceptorOracle) (calls : List AcceptorCall) :
    Effects handlerAreas s (s.onClientDisconnection host errorCode oracle calls) := by
  unfold onClientDisconnection
  split
  · exact .refl
  rename_i connected
  rw [not_not] at connected
  split
  · exact (onClose_effects s errorCode).mono (by simp [handlerAreas, callAreas])
  split
  · have left : Effects handlerAreas s { s with state := .idle, tunnel := none, timerArmed := false } :=
      .single (.disconnected connected) (by simp [handlerAreas])
    obtain ⟨notified, -⟩ := notify_effects (left.wellFormed wellFormed)
      (s.statusOf (errorText host "disconnected" errorCode)) oracle calls
    exact (left.trans (notified.mono callAreas_subset)).trans
      ((doReconnect_effects _).mono (by simp [handlerAreas]))
  · exact (onError_effects s errorCode).mono (by simp [handlerAreas, callAreas])

theorem onClientStatus_effects (wellFormed : s.WellFormed) (status : Status)
    (oracle : AcceptorOracle) (calls : List AcceptorCall) :
    Effects [.calling, .quiet] s (s.onClientStatus status oracle calls) := by
  have merged : Effects [.calling, .quiet] s
      { s with serverStatus := Client.mergeStatus s.serverStatus status } :=
    .single .status (by simp)
  unfold onClientStatus
  dsimp only
  split
  · exact merged
  · rename_i connected
    rw [not_not] at connected
    obtain ⟨-, quiet⟩ := notify_effects (merged.wellFormed wellFormed)
      { s.status with toStatus := Client.mergeStatus s.serverStatus status } oracle calls
    exact merged.trans (quiet (by simp [connected]) (by simp [connected]))

end Rstream.IoRstrm.Acceptor
