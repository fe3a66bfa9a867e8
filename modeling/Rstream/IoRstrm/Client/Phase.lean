import Rstream.IoRstrm.Client.StepEffects

/-!
# The phases of a connection

Two invariants of the client besides `WellFormed`. `Accounted` ties the flags of
an operation object to the log: an operation is marked completed exactly when its
handler has been invoked, and then the handler is gone. `Phase` relates
`m_state`, `m_close_pending`, `m_connect_op` and the pending cancellation of the
send queue: one cancellation is pending while the client waits for it, a connect
operation is stored only while the client connects or is being closed from
there, and a client without an open connection stores nothing.

`Accounted` is kept by every effect. `Phase` is kept by every effect except those
that end a connection; the handler that ends it establishes the phase again.
-/

namespace Rstream.IoRstrm

open Std (TreeMap)

/-- The output is the invocation of the completion handler of an operation. -/
def Output.completes (op : OpId) : Output → Bool
  | .completed other _ _ _ => op = other
  | _ => false

namespace Client

variable {host : Host} {area : Area} {s t : Client}

/-- How often the completion handler of an operation was invoked. -/
def invocations (s : Client) (op : OpId) : Nat := s.log.countP (Output.completes op)

/-! ## Operation objects and the log -/

/-- The flags of the operation objects agree with the log. -/
structure Accounted (s : Client) : Prop where
  handler : ∀ op, (s.ops op).handler = !(s.ops op).completed
  invoked : ∀ op, s.invocations op = if (s.ops op).completed then 1 else 0

theorem invocations_emit (s : Client) (output : Output) (op : OpId) :
    (s.emit output).invocations op = s.invocations op + if output.completes op then 1 else 0 := by
  rw [invocations, emit_log, List.countP_append, List.countP_singleton, invocations]

/-- A change of an operation object that keeps its flags. -/
theorem ops_modifyOp_of_kept {β : Type} (flag : Op → β) (change : Op → Op)
    (kept : ∀ o, flag (change o) = flag o) (s : Client) (id op : OpId) :
    flag ((s.modifyOp id change).ops op) = flag (s.ops op) := by
  by_cases same : op = id
  · rw [same, modifyOp_ops, Function.update_self, kept]
  · rw [modifyOp_ops, Function.update_of_ne same]

theorem Accounted.of_eq (accounted : s.Accounted) (log : t.log = s.log)
    (handler : ∀ op, (t.ops op).handler = (s.ops op).handler)
    (completed : ∀ op, (t.ops op).completed = (s.ops op).completed) : t.Accounted := by
  refine ⟨fun op => ?_, fun op => ?_⟩
  · rw [handler, completed]
    exact accounted.handler op
  · rw [invocations, log, completed]
    exact accounted.invoked op

variable {output : Output} {work : Work}

theorem Accounted.emit (accounted : s.Accounted) (other : ∀ op, output.completes op = false) :
    (s.emit output).Accounted := by
  refine ⟨accounted.handler, fun op => ?_⟩
  rw [invocations_emit, other op]
  exact accounted.invoked op

theorem Accounted.modifyOp (accounted : s.Accounted) (op : OpId) {change : Op → Op}
    (handler : ∀ o, (change o).handler = o.handler)
    (completed : ∀ o, (change o).completed = o.completed) :
    (s.modifyOp op change).Accounted :=
  accounted.of_eq rfl (ops_modifyOp_of_kept Op.handler change handler s op)
    (ops_modifyOp_of_kept Op.completed change completed s op)

theorem Accounted.settle (accounted : s.Accounted) {op : OpId} {errorCode : ErrorCode}
    {value : Value} (pending : (s.ops op).completed = false) :
    (s.settle op errorCode value).Accounted := by
  refine ⟨fun other => ?_, fun other => ?_⟩
  · by_cases same : other = op
    · simp [same]
    · simpa [same] using accounted.handler other
  · rw [Client.settle, invocations_emit]
    have before := accounted.invoked other
    by_cases same : other = op
    · subst same
      rw [pending] at before
      simp only [invocations, modifyOp_log] at before ⊢
      rw [before]
      simp [Output.completes]
    · simp only [invocations, modifyOp_log] at before ⊢
      rw [before]
      simp [Output.completes, same]

theorem completes_of_isNotice (notice : output.isNotice = true) (op : OpId) :
    output.completes op = false := by
  cases output with
  | completed _ _ _ _ => contradiction
  | _ => rfl

theorem completes_of_isSocket (socket : output.isSocket = true) (op : OpId) :
    output.completes op = false := by
  cases output with
  | completed _ _ _ _ => contradiction
  | _ => rfl

/-- Every effect keeps the account. -/
theorem Effect.accounted (effect : Effect host area s t) (accounted : s.Accounted) :
    t.Accounted := by
  cases effect with
  | notice plain => exact accounted.emit (completes_of_isNotice plain)
  | socketOutput socket => exact accounted.emit (completes_of_isSocket socket)
  | fault | request | streamConnected | disconnection => exact accounted.emit fun _ => rfl
  | send running confined control =>
    exact (accounted.emit fun _ => rfl).of_eq rfl (fun _ => rfl) fun _ => rfl
  | connectStream | respond running => exact (accounted.emit fun _ => rfl).of_eq rfl (fun _ => rfl) fun _ => rfl
  | fail pending failed other | created pending | accepted pending => exact accounted.settle pending
  | failConnect pending failed =>
    exact (accounted.settle pending).of_eq rfl (fun _ => rfl) fun _ => rfl
  | opened connecting stored pending =>
    have shifted : (s.setState .connected).Accounted :=
      accounted.of_eq rfl (fun _ => rfl) fun _ => rfl
    exact (shifted.settle pending).of_eq rfl (fun _ => rfl) fun _ => rfl
  | allocate fresh cancelled completed handler reserved =>
    rename_i op arguments
    have filled : (s.modifyOp op fun o => { arguments o with live := true }).Accounted :=
      accounted.modifyOp op handler completed
    exact filled.of_eq rfl (fun _ => rfl) fun _ => rfl
  | reserve free =>
    have filled : (s.modifyOp (.connect s.nextOp) fun o =>
        { o with reserved := true, live := true }).Accounted :=
      accounted.modifyOp _ (fun _ => rfl) fun _ => rfl
    exact filled.of_eq rfl (fun _ => rfl) fun _ => rfl
  | cancelled live | busy op busy => exact accounted.modifyOp _ (fun _ => rfl) fun _ => rfl
  | release idle reserved pending absent =>
    rename_i op
    have released : (s.modifyOp (.connect op) fun o => { o with reserved := false }).Accounted :=
      accounted.modifyOp _ (fun _ => rfl) fun _ => rfl
    exact released.of_eq rfl (fun _ => rfl) fun _ => rfl
  | _ => exact accounted.of_eq rfl (fun _ => rfl) fun _ => rfl

theorem Effects.accounted {areas : List Area} (effects : Effects host areas s t)
    (accounted : s.Accounted) : t.Accounted :=
  effects.invariant (fun _ effect => effect.accounted) accounted

/-! ## The phase -/

/-- The pending cancellations of the send queue. -/
def queueCancels (s : Client) : Nat := s.tasks.countP fun task => task.work.isQueueCancel

/-- How the state, the pending close, the connect operation and the stores fit
together. -/
structure Phase (s : Client) : Prop where
  counted : s.queueCancels = if s.closePending then 1 else 0
  closing : s.closePending = true → s.state = .closing
  connect : ∀ op, s.connectOp = some op →
    (s.ops (.connect op)).completed = false ∧ (s.state = .connecting ∨ s.closePending = true)
  previous : ∀ task ∈ s.tasks, ∀ cause previousState callback,
    task.work = .queueCancel cause previousState callback →
      previousState ≠ .null ∧ (previousState ≠ .connecting → s.connectOp = none)
  creates : s.state = .null ∨ s.state = .connecting →
    ∀ requestId : String, s.createTunnelOps[requestId]? = none
  tunnels : s.state = .null ∨ s.state = .connecting →
    ∀ tunnelId : String, s.tunnels[tunnelId]? = none

theorem queueCancels_append {task : Task} (tasks : t.tasks = s.tasks ++ [task])
    (other : task.work.isQueueCancel = false) : t.queueCancels = s.queueCancels := by
  rw [queueCancels, tasks, List.countP_append, List.countP_singleton, other]
  rfl

theorem isQueueCancel_of_isPlain (plain : work.isPlain = true) : work.isQueueCancel = false := by
  cases work with
  | queueCancel _ _ _ => contradiction
  | _ => rfl

theorem isQueueCancel_of_isRange (range : work.isRange = true) : work.isQueueCancel = false := by
  cases work with
  | queueCancel _ _ _ => contradiction
  | _ => rfl

theorem isQueueCancel_of_dispatches {op : OpId} (dispatches : work.dispatches op = true) :
    work.isQueueCancel = false := by
  cases work with
  | queueCancel _ _ _ => contradiction
  | _ => rfl

namespace Phase

theorem counted_of_effect (phase : s.Phase) (effect : Effect host area s t)
    (running : area ≠ .ending) : t.queueCancels = if t.closePending then 1 else 0 := by
  have same (kept : t.queueCancels = s.queueCancels) (pending : t.closePending = s.closePending) :
      t.queueCancels = if t.closePending then 1 else 0 := by
    rw [kept, pending]
    exact phase.counted
  cases effect with
  | close cause stateChanges idle first =>
    have before := phase.counted
    rw [first] at before
    simp only [queueCancels, start_tasks, start_closePending, List.countP_append,
      List.countP_singleton, Work.isQueueCancel, if_true] at before ⊢
    rw [before]
    rfl
  | start plain => exact same (queueCancels_append rfl (isQueueCancel_of_isPlain plain)) rfl
  | send _ _ _ | connectStream | respond _ => exact same (queueCancels_append rfl rfl) rfl
  | dispatch dispatches _ =>
    exact same (queueCancels_append rfl (isQueueCancel_of_dispatches dispatches)) rfl
  | resume _ range => exact same (queueCancels_append rfl (isQueueCancel_of_isRange range)) rfl
  | reset _ => contradiction
  | _ => exact phase.counted

theorem closing_of_effect (phase : s.Phase) (effect : Effect host area s t)
    (running : area ≠ .ending) : t.closePending = true → t.state = .closing := by
  intro pending
  cases effect with
  | close _ _ _ _ | leave _ => rfl
  | begin idle _ _ _ =>
    have closing := phase.closing pending
    rw [idle] at closing
    contradiction
  | opened connecting _ _ | openedUnobserved connecting _ =>
    have closing := phase.closing pending
    rw [connecting] at closing
    contradiction
  | reset _ => contradiction
  | _ => exact phase.closing pending

/-- Completing an operation of another type leaves connect operations alone. -/
theorem completed_settle_other (s : Client) {op : OpId} (other : ∀ index, op ≠ .connect index)
    (errorCode : ErrorCode) (value : Value) (index : Nat) :
    ((s.settle op errorCode value).ops (.connect index)).completed =
      (s.ops (.connect index)).completed := by
  have apart : OpId.connect index ≠ op := fun same => other index same.symm
  simp [apart]

section

variable (phase : s.Phase)

include phase

theorem connect_of_effect (accounted : s.Accounted)
    (effect : Effect host area s t) (running : area ≠ .ending) (op : Nat)
    (stored : t.connectOp = some op) :
    (t.ops (.connect op)).completed = false ∧ (t.state = .connecting ∨ t.closePending = true) := by
  have notPending (state : s.state ≠ .closing) : s.closePending = false := by
    cases pending : s.closePending with
    | true => exact absurd (phase.closing pending) state
    | false => rfl
  cases effect with
  | close _ _ _ _ => exact ⟨(phase.connect op stored).1, .inr rfl⟩
  | fail _ _ other =>
    have before := phase.connect op stored
    exact ⟨(completed_settle_other s other _ _ op).trans before.1, before.2⟩
  | created _ =>
    rename_i created _ _ _
    have other : ∀ index, OpId.createTunnel created ≠ .connect index := by simp
    have before := phase.connect op stored
    exact ⟨(completed_settle_other s other _ _ op).trans before.1, before.2⟩
  | accepted _ =>
    rename_i accepted _ _
    have other : ∀ index, OpId.acceptTunnel accepted ≠ .connect index := by simp
    have before := phase.connect op stored
    exact ⟨(completed_settle_other s other _ _ op).trans before.1, before.2⟩
  | failConnect pending _ =>
    rename_i done errorCode _
    by_cases here : s.connectOp = some done
    · simp only [if_pos here] at stored
      contradiction
    · simp only [if_neg here] at stored
      have apart : OpId.connect op ≠ .connect done := by
        rintro ⟨⟩
        exact here stored
      have before := phase.connect op stored
      refine ⟨?_, before.2⟩
      simpa [apart] using before.1
  | begin _ handler _ _ =>
    cases stored
    have flag := accounted.handler (.connect op)
    rw [handler] at flag
    exact ⟨by simpa using flag.symm, .inl rfl⟩
  | opened _ _ _ | dropConnect _ | reset _ => contradiction
  | openedUnobserved connecting settled =>
    have before := phase.connect op stored
    rw [settled op stored] at before
    exact absurd before.1 (by simp)
  | leave connected =>
    have before := phase.connect op stored
    rw [connected, notPending (by simp [connected])] at before
    exact absurd before.2 (by simp)
  | allocate fresh cancelled completed handler reserved =>
    rename_i id arguments
    have before := phase.connect op stored
    have kept : ((s.allocate id arguments).ops (.connect op)).completed =
        (s.ops (.connect op)).completed :=
      ops_modifyOp_of_kept Op.completed (fun o => { arguments o with live := true }) completed
        s id (.connect op)
    exact ⟨kept.trans before.1, before.2⟩
  | reserve _ =>
    have before := phase.connect op stored
    have kept := ops_modifyOp_of_kept Op.completed
      (fun o => { o with reserved := true, live := true }) (fun _ => rfl) s
      (.connect s.nextOp) (.connect op)
    exact ⟨kept.trans before.1, before.2⟩
  | cancelled _ =>
    rename_i id _
    have before := phase.connect op stored
    have kept := ops_modifyOp_of_kept Op.completed (fun o => { o with cancelled := true })
      (fun _ => rfl) s id (.connect op)
    exact ⟨kept.trans before.1, before.2⟩
  | busy accept flag =>
    have before := phase.connect op stored
    have kept := ops_modifyOp_of_kept Op.completed (fun o => { o with busy := flag })
      (fun _ => rfl) s (.acceptTunnel accept) (.connect op)
    exact ⟨kept.trans before.1, before.2⟩
  | release idle reserved pending absent =>
    rename_i released
    have before := phase.connect op stored
    have kept := ops_modifyOp_of_kept Op.completed (fun o => { o with reserved := false })
      (fun _ => rfl) s (.connect released) (.connect op)
    exact ⟨kept.trans before.1, before.2⟩
  | _ => exact phase.connect op stored

/-- No cancellation is pending while the client is not being closed. -/
theorem noQueueCancel (state : s.state ≠ .closing) (task : Task)
    (mem : task ∈ s.tasks) : task.work.isQueueCancel = false := by
  have none : s.queueCancels = 0 := by
    rw [phase.counted]
    cases pending : s.closePending with
    | true => exact absurd (phase.closing pending) state
    | false => rfl
  have absent := List.countP_eq_zero.mp none task mem
  simpa using absent

theorem previous_of_effect (effect : Effect host area s t) (task : Task)
    (mem : task ∈ t.tasks) (cause : ErrorCode) (previousState : ClientState) (callback : Bool)
    (work : task.work = .queueCancel cause previousState callback) :
    previousState ≠ .null ∧ (previousState ≠ .connecting → t.connectOp = none) := by
  -- tasks of another kind, wherever they are appended
  have appended {new : Task} (other : new.work.isQueueCancel = false)
      (member : task ∈ s.tasks ++ [new]) : task ∈ s.tasks := by
    rw [List.mem_append, List.mem_singleton] at member
    rcases member with before | rfl
    · exact before
    · rw [work] at other
      contradiction
  have before (member : task ∈ s.tasks) := phase.previous task member cause previousState callback
    work
  cases effect with
  | close _ _ running first =>
    rw [start_tasks, List.mem_append, List.mem_singleton] at mem
    rcases mem with member | rfl
    · exact before member
    · cases work
      refine ⟨running, fun open' => ?_⟩
      cases stored : s.connectOp with
      | none => rfl
      | some op =>
        rcases (phase.connect op stored).2 with connecting | pending
        · exact absurd connecting open'
        · rw [first] at pending
          contradiction
  | start plain => exact before (appended (isQueueCancel_of_isPlain plain) mem)
  | send _ _ _ | connectStream | respond _ => exact before (appended rfl mem)
  | dispatch dispatches _ => exact before (appended (isQueueCancel_of_dispatches dispatches) mem)
  | resume _ range => exact before (appended (isQueueCancel_of_isRange range) mem)
  | begin idle _ _ _ =>
    have other := phase.noQueueCancel (by simp [idle]) task mem
    rw [work] at other
    contradiction
  | opened _ _ _ | dropConnect _ => exact ⟨(before mem).1, fun _ => rfl⟩
  | failConnect _ _ =>
    refine ⟨(before mem).1, fun open' => ?_⟩
    have gone := (before mem).2 open'
    simp [gone]
  | _ => exact before mem

theorem creates_of_effect (effect : Effect host area s t)
    (running : area ≠ .ending) (closed : t.state = .null ∨ t.state = .connecting)
    (requestId : String) : t.createTunnelOps[requestId]? = none := by
  cases effect with
  | close _ _ _ _ | leave _ | opened _ _ _ | openedUnobserved _ _ => simp at closed
  | begin idle _ _ _ => exact phase.creates (.inl idle) requestId
  | storeCreate connected _ _ _ =>
    rw [connected] at closed
    simp at closed
  | eraseCreate _ =>
    rw [Library.getElem?_erase, phase.creates closed requestId, ite_self]
  | reset _ => contradiction
  | _ => exact phase.creates closed requestId

theorem tunnels_of_effect (effect : Effect host area s t)
    (running : area ≠ .ending) (closed : t.state = .null ∨ t.state = .connecting)
    (tunnelId : String) : t.tunnels[tunnelId]? = none := by
  have modified (key : String) (change : Tunnel → Tunnel)
      (closed : s.state = .null ∨ s.state = .connecting) :
      (s.tunnels.modify key change)[tunnelId]? = none := by
    rw [Library.getElem?_modify, phase.tunnels closed tunnelId, Option.map_none, ite_self]
  cases effect with
  | close _ _ _ _ | leave _ | opened _ _ _ | openedUnobserved _ _ => simp at closed
  | begin idle _ _ _ => exact phase.tunnels (.inl idle) tunnelId
  | markClosing key => exact modified key _ closed
  | clearAccept _ | streams _ | handed _ _ | storeAccept _ _ _ => exact modified _ _ closed
  | eraseTunnel _ => rw [Library.getElem?_erase, phase.tunnels closed tunnelId, ite_self]
  | addTunnel idle opened =>
    rcases closed with null | connecting
    · exact absurd null idle
    · exact absurd connecting opened
  | reset _ => contradiction
  | _ => exact phase.tunnels closed tunnelId

/-- Every effect but the end of a connection keeps the phase. -/
theorem of_effect (accounted : s.Accounted) (effect : Effect host area s t)
    (running : area ≠ .ending) : t.Phase where
  counted := phase.counted_of_effect effect running
  closing := phase.closing_of_effect effect running
  connect := phase.connect_of_effect accounted effect running
  previous := phase.previous_of_effect effect
  creates := phase.creates_of_effect effect running
  tunnels := phase.tunnels_of_effect effect running

end

theorem of_effects {areas : List Area} (running : .ending ∉ areas)
    (effects : Effects host areas s t) (accounted : s.Accounted) (phase : s.Phase) : t.Phase := by
  have both : t.Accounted ∧ t.Phase := by
    refine effects.invariant (p := fun u => u.Accounted ∧ u.Phase) ?_ ⟨accounted, phase⟩
    intro area s t mem effect before
    have notEnding : area ≠ .ending := fun same => running (same ▸ mem)
    exact ⟨effect.accounted before.1, before.2.of_effect before.1 effect notEnding⟩
  exact both.2

end Phase

end Client

end Rstream.IoRstrm
