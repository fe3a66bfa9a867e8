import Rstream.IoRstrm.Client.Completions

/-!
# Who hears of the end of a connection

A user that installs a disconnection callback before every connect hears of the end of every
connection it was told of. The callback is read by `on_close`, and it is still installed
then: the callbacks are changed only while the client is free, and they are cleared together
with the connection. What could come between is a second connect that holds a reservation
when the connection of the first ends; there is none, as only one operation is reserved at a
time and the connection that runs is its own (`Subscribed`).

A connect operation that was reported as successful belongs to a connection that is open
(`Up`); its end is then announced to the callback.
-/

namespace Rstream.IoRstrm

open List

/-- The output reports the success of a connect operation. -/
def Output.opens : Output → Bool
  | .completed (.connect _) errorCode _ _ => !errorCode.failed
  | _ => false

namespace Client

variable {host : Host} {area : Area} {s t : Client}

/-- The disconnection callback is installed. -/
def heard (s : Client) : Bool := s.controlCallbacks.onDisconnection

/-- A connect operation that holds the reservation and may still begin or report. -/
def Holding (s : Client) (op : Nat) : Prop :=
  (s.ops (.connect op)).reserved = true ∧ (s.ops (.connect op)).completed = false

/-- The callback is installed whenever a connection runs or is reserved, and there is at most
one such connection. -/
structure Subscribed (s : Client) : Prop where
  running : s.state ≠ .null → s.isStateNonNull = true ∧ s.heard = true
  reserved : ∀ op, s.Holding op → s.isStateNonNull = true ∧ s.heard = true
  stored : ∀ op, s.Holding op → s.state ≠ .null → s.connectOp = some op
  single : ∀ op other, s.Holding op → s.Holding other → op = other
  told : ∀ task ∈ s.tasks, ∀ cause previousState callback,
    task.work = .queueCancel cause previousState callback → callback = true

namespace Subscribed

/-- A change of other members. -/
theorem of_same (subscribed : s.Subscribed) (state : t.state = s.state)
    (free : t.isStateNonNull = s.isStateNonNull) (heard : t.heard = s.heard)
    (connectOp : t.connectOp = s.connectOp) (holding : ∀ op, t.Holding op → s.Holding op)
    (tasks : ∀ task ∈ t.tasks, task.work.isQueueCancel = true → task ∈ s.tasks) :
    t.Subscribed where
  running := by
    rw [state, free, heard]
    exact subscribed.running
  reserved op holds := by
    rw [free, heard]
    exact subscribed.reserved op (holding op holds)
  stored op holds := by
    rw [state, connectOp]
    exact subscribed.stored op (holding op holds)
  single op other holds also := subscribed.single op other (holding op holds) (holding other also)
  told task mem cause previousState callback work := by
    have before := tasks task mem (by rw [work]; rfl)
    exact subscribed.told task before cause previousState callback work

end Subscribed

theorem isQueueCancel_mem {new : Task} {tasks : List Task} (other : new.work.isQueueCancel = false) :
    ∀ task ∈ tasks ++ [new], task.work.isQueueCancel = true → task ∈ tasks := by
  intro task mem cancels
  rcases mem_append.mp mem with before | last
  · exact before
  · rw [mem_singleton.mp last, other] at cancels
    cases cancels

variable {index : Nat} {task : Task}

/-- Completing an operation holds nothing new. -/
theorem holding_settle (s : Client) (op : OpId) (errorCode : ErrorCode) (value : Value)
    (holds : (s.settle op errorCode value).Holding index) :
    s.Holding index ∧ op ≠ .connect index := by
  by_cases same : OpId.connect index = op
  · subst same
    have done := holds.2
    simp at done
  · have reserved := holds.1
    have pending := holds.2
    simp only [settle_ops, Function.update_of_ne same] at reserved pending
    exact ⟨⟨reserved, pending⟩, fun other => same other.symm⟩

theorem holding_modifyOp (s : Client) (id : OpId) (change : Op → Op)
    (reserved : ∀ o, (change o).reserved = true → o.reserved = true)
    (completed : ∀ o, (change o).completed = o.completed)
    (holds : (s.modifyOp id change).Holding index) : s.Holding index := by
  by_cases same : OpId.connect index = id
  · subst same
    have here := holds.1
    have pending := holds.2
    simp only [modifyOp_ops, Function.update_self] at here pending
    exact ⟨reserved _ here, (completed _).symm.trans pending⟩
  · have here := holds.1
    have pending := holds.2
    simp only [modifyOp_ops, Function.update_of_ne same] at here pending
    exact ⟨here, pending⟩

/-- Every effect but a call and the end of a connection keeps the subscription. -/
theorem Effect.subscribed (effect : Effect host area s t) (accounted : s.Accounted)
    (subscribed : s.Subscribed) (inside : area ≠ .calling) (open' : area ≠ .ending) :
    t.Subscribed := by
  have same := subscribed.of_same (t := t)
  cases effect with
  | notice plain | streamConnected => exact same rfl rfl rfl rfl (fun _ holds => holds) fun _ mem _ => mem
  | start plain =>
    exact same rfl rfl rfl rfl (fun _ holds => holds)
      (isQueueCancel_mem (isQueueCancel_of_isPlain plain))
  | send running confined control =>
    exact same rfl rfl rfl rfl (fun _ holds => holds) (isQueueCancel_mem rfl)
  | close cause stateChanges running first =>
    obtain ⟨nonNull, heard⟩ := subscribed.running running
    refine ⟨fun _ => ⟨nonNull, heard⟩, subscribed.reserved, fun op holds _ =>
      subscribed.stored op holds running, subscribed.single, ?_⟩
    intro task mem otherCause previousState callback work
    rcases mem_append.mp mem with before | last
    · exact subscribed.told task before otherCause previousState callback work
    · cases mem_singleton.mp last
      cases work
      exact heard
  | fail pending failed other | created _ | accepted _ =>
    exact same rfl rfl rfl rfl (fun _ holds => (holding_settle s _ _ _ holds).1) fun _ mem _ => mem
  | @failConnect _ op errorCode pending failed =>
    have fewer : ∀ index, Holding
        { s.settle (.connect op) errorCode .unit with
          connectOp := if s.connectOp = some op then none else s.connectOp } index →
        s.Holding index ∧ index ≠ op := by
      intro index holds
      obtain ⟨before, apart⟩ := holding_settle s (.connect op) errorCode .unit holds
      exact ⟨before, fun equal => apart (by rw [equal])⟩
    refine ⟨subscribed.running, fun index holds => subscribed.reserved index (fewer index holds).1,
      fun index holds running => ?_, fun index other holds also =>
      subscribed.single index other (fewer index holds).1 (fewer other also).1, subscribed.told⟩
    obtain ⟨before, apart⟩ := fewer index holds
    have stored := subscribed.stored index before running
    show (if s.connectOp = some op then none else s.connectOp) = some index
    rw [stored, if_neg fun equal => apart (Option.some.inj equal)]
  | @begin _ op idle handler reserved storable =>
    have flag := accounted.handler (.connect op)
    rw [handler] at flag
    have holds : s.Holding op := ⟨reserved, by simpa using flag.symm⟩
    refine ⟨fun _ => subscribed.reserved op holds, subscribed.reserved, fun other also _ => ?_,
      subscribed.single, subscribed.told⟩
    have equal : op = other := subscribed.single op other holds also
    rw [← equal]
    rfl
  | @opened _ op connecting stored pending =>
    have running : s.state ≠ .null := by simp [connecting]
    have none : ∀ index, ¬ Holding
        { (s.setState .connected).settle (.connect op) .none .unit with connectOp := none }
        index := by
      intro index holds
      obtain ⟨before, apart⟩ := holding_settle (s.setState .connected) (.connect op) .none
        .unit holds
      have also := subscribed.stored index before running
      rw [stored] at also
      exact apart (by rw [Option.some.inj also])
    exact ⟨fun _ => subscribed.running running, fun index holds => absurd holds (none index),
      fun index holds => absurd holds (none index), fun index _ holds => absurd holds (none index),
      subscribed.told⟩
  | openedUnobserved connecting settled =>
    have running : s.state ≠ .null := by simp [connecting]
    exact ⟨fun _ => subscribed.running running, subscribed.reserved,
      fun op holds _ => subscribed.stored op holds running, subscribed.single, subscribed.told⟩
  | leave connected =>
    have running : s.state ≠ .null := by simp [connected]
    exact ⟨fun _ => subscribed.running running, subscribed.reserved,
      fun op holds _ => subscribed.stored op holds running, subscribed.single, subscribed.told⟩
  | callbacks _ | allocate _ _ _ _ _ | reserve _ | dispatch _ _ | cancelled _ | reset _
  | dropConnect _ | disconnection => contradiction
  | @release _ op idle reserved pending absent =>
    have flag := accounted.handler (.connect op)
    have holds : s.Holding op := by
      refine ⟨reserved, ?_⟩
      rcases pending with pending | handler
      · exact pending
      · rw [handler] at flag
        simpa using flag.symm
    have none : ∀ index, ¬ Holding
        { s.modifyOp (.connect op) (fun o => { o with reserved := false }) with
          isStateNonNull := false, serverAddress := {} } index := by
      intro index also
      have before : s.Holding index := holding_modifyOp s (.connect op)
        (fun o => { o with reserved := false }) (by simp) (fun _ => rfl) also
      have equal := subscribed.single op index holds before
      have freed := also.1
      simp [equal] at freed
    exact ⟨fun running => absurd idle running, fun index also => absurd also (none index),
      fun index also => absurd also (none index), fun index _ also => absurd also (none index),
      subscribed.told⟩
  | connectStream | respond _ => exact same rfl rfl rfl rfl (fun _ holds => holds) (isQueueCancel_mem rfl)
  | busy op busy =>
    exact same rfl rfl rfl rfl
      (fun _ holds => holding_modifyOp s _ (fun o => { o with busy := busy })
        (fun _ here => here) (fun _ => rfl) holds)
      fun _ mem _ => mem
  | resume _ range =>
    exact same rfl rfl rfl rfl (fun _ holds => holds)
      (isQueueCancel_mem (isQueueCancel_of_isRange range))
  | _ => exact same rfl rfl rfl rfl (fun _ holds => holds) fun _ mem _ => mem

/-! ## The end of a connection -/

/-- The client is reset, and nothing but the connect operation of the connection that ends
holds a reservation. -/
structure Fading (s : Client) : Prop where
  null : s.state = .null
  last : ∀ op, s.Holding op → s.connectOp = some op
  told : ∀ task ∈ s.tasks, ∀ cause previousState callback,
    task.work = .queueCancel cause previousState callback → callback = true

theorem Fading.of_same (fading : s.Fading) (state : t.state = s.state)
    (connectOp : t.connectOp = s.connectOp) (holding : ∀ op, t.Holding op → s.Holding op)
    (tasks : ∀ task ∈ t.tasks, task.work.isQueueCancel = true → task ∈ s.tasks) : t.Fading where
  null := state.trans fading.null
  last op holds := by
    rw [connectOp]
    exact fading.last op (holding op holds)
  told task mem cause previousState callback work := by
    have before := tasks task mem (by rw [work]; rfl)
    exact fading.told task before cause previousState callback work

theorem Effect.fading (effect : Effect host area s t) (fading : s.Fading)
    (closed : s.closePending = false) (ending : area = .control ∨ area = .ending) : t.Fading := by
  have same := fading.of_same (t := t)
  cases effect with
  | start plain =>
    exact same rfl rfl (fun _ holds => holds) (isQueueCancel_mem (isQueueCancel_of_isPlain plain))
  | send running confined control | close cause stateChanges running first => exact absurd fading.null running
  | fail pending failed other =>
    exact same rfl rfl (fun _ holds => (holding_settle s _ _ _ holds).1) fun _ mem _ => mem
  | @failConnect _ op errorCode pending failed =>
    refine ⟨fading.null, fun index holds => ?_, fading.told⟩
    obtain ⟨before, apart⟩ := holding_settle s (.connect op) errorCode .unit holds
    have stored := fading.last index before
    show (if s.connectOp = some op then none else s.connectOp) = some index
    rw [stored, if_neg fun equal => apart (by rw [Option.some.inj equal])]
  | opened connecting stored pending | openedUnobserved connecting settled => cases fading.null.symm.trans connecting
  | leave connected => cases fading.null.symm.trans connected
  | @release _ op idle reserved pending absent =>
    refine ⟨fading.null, fun index holds => ?_, fading.told⟩
    exact fading.last index (holding_modifyOp s (.connect op)
      (fun o => { o with reserved := false }) (by simp) (fun _ => rfl) holds)
  | reset pending =>
    rw [closed] at pending
    contradiction
  | dropConnect settled =>
    refine ⟨fading.null, fun op holds => ?_, fading.told⟩
    have before : s.Holding op := holds
    have done := settled op (fading.last op before)
    cases before.2.symm.trans done
  | notice _ | status | eraseCreate _ | markClosing _ | clearAccept _ | eraseTunnel _
  | disconnection => exact same rfl rfl (fun _ holds => holds) fun _ mem _ => mem
  | _ => simp at ending

/-- A client that waits for its queue is not reset yet. -/
theorem Effect.unreset (effect : Effect host area s t)
    (unreset : s.closePending = true → s.state ≠ .null) :
    t.closePending = true → t.state ≠ .null := by
  cases effect with
  | close _ _ _ _ | begin _ _ _ _ | opened _ _ _ | openedUnobserved _ _ | leave _ => exact fun _ => nofun
  | reset _ => exact fun pending => nomatch pending
  | _ => exact unreset

/-- Where the handler of the cancelled queue is: before or after the reset. -/
structure Finishing (s : Client) : Prop where
  accounted : s.Accounted
  unreset : s.closePending = true → s.state ≠ .null
  either : s.Subscribed ∨ s.Fading ∧ s.closePending = false

theorem Effect.finishing (effect : Effect host area s t) (finishing : s.Finishing)
    (ending : area = .control ∨ area = .ending) : t.Finishing := by
  refine ⟨effect.accounted finishing.accounted, effect.unreset finishing.unreset, ?_⟩
  rcases finishing.either with subscribed | ⟨fading, closed⟩
  · by_cases inside : area = .control
    · exact .inl (effect.subscribed finishing.accounted subscribed (by simp [inside])
        (by simp [inside]))
    · cases effect with
      | reset pending =>
        have running := finishing.unreset pending
        exact .inr ⟨⟨rfl, fun op holds => subscribed.stored op holds running, subscribed.told⟩, rfl⟩
      | dropConnect settled =>
        refine .inl ⟨subscribed.running, subscribed.reserved, fun op holds running => ?_,
          subscribed.single, subscribed.told⟩
        have before : s.Holding op := holds
        have done := settled op (subscribed.stored op before running)
        cases before.2.symm.trans done
      | disconnection =>
        exact .inl (subscribed.of_same rfl rfl rfl rfl (fun _ holds => holds) fun _ mem _ => mem)
      | _ => simp_all
  · right
    refine ⟨effect.fading fading closed ending, ?_⟩
    cases effect with
    | close cause stateChanges running first => exact absurd fading.null running
    | reset _ => rfl
    | _ => exact closed

/-- The end of a connection keeps the subscription. -/
theorem Subscribed.onQueueCancelled (subscribed : s.Subscribed) (accounted : s.Accounted)
    (running : s.closePending = true → s.state ≠ .null)
    {errorCode cause : ErrorCode} {previousState : ClientState} {callback : Bool}
    (settled : previousState ≠ .connecting → s.connectOp = none) :
    (s.onQueueCancelled host errorCode cause previousState callback).Subscribed := by
  cases pending : s.closePending with
  | false =>
    rw [Client.onQueueCancelled, if_pos (by simp [pending])]
    exact subscribed
  | true =>
    have effects : Effects host [.control, .ending] s
        (s.onQueueCancelled host errorCode cause previousState callback) :=
      onQueueCancelled_effects s errorCode cause callback settled
    have finishing := effects.invariant (p := Finishing) (fun mem effect kept =>
      effect.finishing kept (by simpa using mem)) ⟨accounted, running, .inl subscribed⟩
    obtain ⟨createTunnelOps, tunnels, ops, log, ended, -, -⟩ :=
      onQueueCancelled_spec host s errorCode cause previousState callback pending
    rcases finishing.either with kept | ⟨fading, -⟩
    · exact kept
    · have dropped : (s.onQueueCancelled host errorCode cause previousState
          callback).connectOp = none := by
        rw [ended]
      have none (op : Nat) : ¬ (s.onQueueCancelled host errorCode cause previousState
          callback).Holding op := by
        intro holds
        cases dropped.symm.trans (fading.last op holds)
      exact ⟨fun running => absurd fading.null running, fun op holds => absurd holds (none op),
        fun op holds => absurd holds (none op), fun op _ holds => absurd holds (none op),
        fading.told⟩

/-- The run of a piece of work, when the status callback makes no calls, keeps the
subscription. -/
theorem Subscribed.run (subscribed : s.Subscribed) (invariant : s.Invariant)
    (found : s.tasks[index]? = some task) {input : Input} (silent : input.calls = []) :
    ((s.takeTask index).perform host task input).Subscribed := by
  have taken : (s.takeTask index).Subscribed :=
    subscribed.of_same rfl rfl rfl rfl (fun _ holds => holds)
      fun _ mem _ => mem_of_mem_eraseIdx mem
  have accounted := invariant.accounted.takeTask index
  cases work : task.work.isQueueCancel with
  | false =>
    have effects := run_effects host invariant found input
    have areas : ∀ area ∈ areasOf input.calls task.work, area ≠ .calling ∧ area ≠ .ending := by
      intro area mem
      rw [silent] at mem
      constructor
      · rintro rfl
        cases kind : task.work with
        | _ => simp_all [areasOf]
      · rintro rfl
        exact ending_notMem_areasOf [] work mem
    have both : ((s.takeTask index).perform host task input).Accounted ∧
        ((s.takeTask index).perform host task input).Subscribed := by
      refine effects.invariant (p := fun u => u.Accounted ∧ u.Subscribed) ?_ ⟨accounted, taken⟩
      intro area u v mem effect before
      obtain ⟨inside, open'⟩ := areas area mem
      exact ⟨effect.accounted before.1, effect.subscribed before.1 before.2 inside open'⟩
    exact both.2
  | true =>
    obtain ⟨generation, connection, queued⟩ := task
    cases queued with
    | queueCancel cause previousState callback =>
      refine taken.onQueueCancelled accounted (fun pending => ?_)
        (invariant.phase.queueCancelSettled found cause previousState callback rfl)
      have closing : s.state = .closing := invariant.phase.closing pending
      show s.state ≠ .null
      simp [closing]
    | _ => contradiction

/-! ## A connection that was reported -/

/-- A connection is open, or on its way to its end from there. -/
structure Up (s : Client) : Prop where
  state : s.state = .connected ∨ s.state = .closing
  previous : ∀ task ∈ s.tasks, ∀ cause previousState callback,
    task.work = .queueCancel cause previousState callback → previousState ≠ .connecting

theorem Up.of_same (up : s.Up) (state : t.state = s.state)
    (tasks : ∀ task ∈ t.tasks, task.work.isQueueCancel = true → task ∈ s.tasks) : t.Up where
  state := by
    rw [state]
    exact up.state
  previous task mem cause previousState callback work := by
    have before := tasks task mem (by rw [work]; rfl)
    exact up.previous task before cause previousState callback work

theorem Up.running (up : s.Up) : s.state ≠ .null ∧ s.state ≠ .connecting := by
  rcases up.state with connected | closing
  · simp [connected]
  · simp [closing]

/-- An open connection stays open until its end. -/
theorem Effect.up (effect : Effect host area s t) (up : s.Up) (open' : area ≠ .ending) : t.Up := by
  have same := up.of_same (t := t)
  have running := up.running
  cases effect with
  | start plain => exact same rfl (isQueueCancel_mem (isQueueCancel_of_isPlain plain))
  | send _ _ _ | connectStream | respond _ => exact same rfl (isQueueCancel_mem rfl)
  | close cause stateChanges _ first =>
    refine ⟨.inr rfl, fun task mem otherCause previousState callback work => ?_⟩
    rcases mem_append.mp mem with before | last
    · exact up.previous task before otherCause previousState callback work
    · cases mem_singleton.mp last
      cases work
      exact running.2
  | begin idle _ _ _ => exact absurd idle running.1
  | opened connecting _ _ | openedUnobserved connecting _ => exact absurd connecting running.2
  | leave _ => exact ⟨.inr rfl, up.previous⟩
  | dispatch dispatches _ => exact same rfl (isQueueCancel_mem (isQueueCancel_of_dispatches dispatches))
  | resume _ range => exact same rfl (isQueueCancel_mem (isQueueCancel_of_isRange range))
  | reset _ => contradiction
  | _ => exact same rfl fun _ mem _ => mem

/-- What an effect reports of a connect operation: a success only when the connection opens. -/
theorem Effect.opens (effect : Effect host area s t) (phase : s.state = .connecting → s.Phase) :
    ∃ added, t.log = s.log ++ added ∧
      ∀ output ∈ added, output.opens = true → s.state = .connecting ∧ t.Up := by
  have silent (kept : t.log = s.log) : ∃ added, t.log = s.log ++ added ∧
      ∀ output ∈ added, output.opens = true → s.state = .connecting ∧ t.Up :=
    ⟨[], by rw [kept, append_nil], by simp⟩
  have other {new : Output} (last : t.log = s.log ++ [new]) (apart : new.opens = false) :
      ∃ added, t.log = s.log ++ added ∧
        ∀ output ∈ added, output.opens = true → s.state = .connecting ∧ t.Up := by
    refine ⟨[new], last, fun output mem success => ?_⟩
    rw [mem_singleton.mp mem, apart] at success
    contradiction
  cases effect with
  | @notice _ new plain =>
    refine other rfl ?_
    cases new with
    | completed _ _ _ _ => contradiction
    | _ => rfl
  | @socketOutput _ new socket =>
    refine other rfl ?_
    cases new with
    | completed _ _ _ _ => contradiction
    | _ => rfl
  | @fail _ op errorCode value pending failed apart =>
    refine other rfl ?_
    cases op with
    | connect index => exact absurd rfl (apart index)
    | _ => rfl
  | failConnect pending failed => exact other rfl (by simp [Output.opens, failed])
  | opened connecting stored pending =>
    refine ⟨_, rfl, fun output mem success => ⟨connecting, .inl rfl, ?_⟩⟩
    intro task member cause previousState callback work
    have none := (phase connecting).noQueueCancel (by simp [connecting]) task member
    rw [work] at none
    contradiction
  | send _ _ _ | created _ | accepted _ | fault | request | connectStream | respond _
  | streamConnected | disconnection => exact other rfl rfl
  | _ => exact silent rfl

theorem Effect.notConnecting (effect : Effect host area s t) (before : s.state ≠ .connecting)
    (ending : area = .control ∨ area = .ending) : t.state ≠ .connecting := by
  cases effect with
  | close _ _ _ _ | opened _ _ _ | openedUnobserved _ _ | leave _ | reset _ => nofun
  | begin _ _ _ _ => simp at ending
  | _ => exact before

/-- **A connect operation is reported as successful only by an open connection.** -/
theorem opens_of_run (invariant : s.Invariant) (found : s.tasks[index]? = some task) (input : Input)
    :
    ∀ output ∈ ((s.takeTask index).perform host task input).log.drop s.log.length,
      output.opens = true → ((s.takeTask index).perform host task input).Up := by
  have effects := run_effects host invariant found input
  -- what the chain has reported so far: a success only if the connection is open now
  suffices reported : ∃ added, ((s.takeTask index).perform host task input).log = s.log ++ added ∧
      ∀ output ∈ added, output.opens = true → ((s.takeTask index).perform host task input).Up by
    obtain ⟨added, grows, opens⟩ := reported
    rw [grows, drop_left]
    exact opens
  cases work : task.work.isQueueCancel with
  | false =>
    have along := effects.invariant (p := fun u => u.Accounted ∧ u.Phase ∧
      ∃ added, u.log = s.log ++ added ∧ ∀ output ∈ added, output.opens = true → u.Up) ?_
      ⟨invariant.accounted.takeTask index, invariant.phase.takeTask found work, [],
        (append_nil _).symm, by simp⟩
    · exact along.2.2
    rintro area u v member effect ⟨accounted, phase, added, before, opens⟩
    have open' : area ≠ .ending := by
      rintro rfl
      exact ending_notMem_areasOf input.calls work member
    obtain ⟨more, after, opened⟩ := effect.opens fun _ => phase
    refine ⟨effect.accounted accounted, phase.of_effect accounted effect open', added ++ more,
      by rw [after, before, append_assoc], fun output mem success => ?_⟩
    rcases mem_append.mp mem with old | new
    · exact effect.up (opens output old success) open'
    · exact (opened output new success).2
  | true =>
    obtain ⟨pending, -⟩ := invariant.phase.pending_of_queueCancel found work
    have closing : s.state = .closing := invariant.phase.closing pending
    obtain ⟨generation, connection, queued⟩ := task
    cases queued with
    | queueCancel cause previousState callback =>
      have along := effects.invariant (p := fun u => u.state ≠ .connecting ∧
        ∃ added, u.log = s.log ++ added ∧ ∀ output ∈ added, output.opens = true → False) ?_
        ⟨by simp [closing], [], (append_nil _).symm, by simp⟩
      · obtain ⟨-, added, grows, none⟩ := along
        exact ⟨added, grows, fun output mem success => absurd success (none output mem)⟩
      rintro area u v member effect ⟨apart, added, before, none⟩
      have ending : area = .control ∨ area = .ending := by simpa [areasOf] using member
      obtain ⟨more, after, opened⟩ := effect.opens fun connecting => absurd connecting apart
      refine ⟨effect.notConnecting apart ending, added ++ more,
        by rw [after, before, append_assoc], fun output mem success => ?_⟩
      rcases mem_append.mp mem with old | new
      · exact none output old success
      · exact apart (opened output new success).1
    | _ => contradiction

theorem log_of_effects {areas : List Area} (effects : Effects host areas s t) :
    ∃ added, t.log = s.log ++ added := by
  refine effects.invariant (p := fun u => ∃ added, u.log = s.log ++ added) ?_
    ⟨[], (append_nil _).symm⟩
  rintro area u v - effect ⟨added, before⟩
  obtain ⟨more, after⟩ := effect.log
  exact ⟨added ++ more, by rw [after, before, append_assoc]⟩

/-- The callback is told after everything else. -/
theorem onQueueCancelled_told (pending : s.closePending = true) {previousState : ClientState}
    (left : previousState = .connected ∨ previousState = .closing) (errorCode cause : ErrorCode) :
    s.onQueueCancelled host errorCode cause previousState true =
      (s.onQueueCancelled host errorCode cause previousState false).emit
        (.disconnection (cause.orElse errorCode)) := by
  simp only [Client.onQueueCancelled, pending, not_true_eq_false, if_false, left, true_and,
    if_true, Bool.false_eq_true, and_false]

/-- **An open connection ends with a disconnection.** -/
theorem Up.run (up : s.Up) (subscribed : s.Subscribed) (invariant : s.Invariant)
    (found : s.tasks[index]? = some task) (input : Input) :
    ((s.takeTask index).perform host task input).Up ∨ ∃ errorCode, .disconnection errorCode ∈
      ((s.takeTask index).perform host task input).log.drop s.log.length := by
  cases work : task.work.isQueueCancel with
  | false =>
    have taken : (s.takeTask index).Up :=
      up.of_same rfl fun _ mem _ => mem_of_mem_eraseIdx mem
    refine .inl ((run_effects host invariant found input).invariant (p := Up) ?_ taken)
    intro area u v mem effect before
    refine effect.up before ?_
    rintro rfl
    exact ending_notMem_areasOf input.calls work mem
  | true =>
    right
    obtain ⟨pending, -⟩ := invariant.phase.pending_of_queueCancel found work
    have settled := invariant.phase.queueCancelSettled found
    obtain ⟨generation, connection, queued⟩ := task
    cases queued with
    | queueCancel cause previousState callback =>
      have mem := Library.mem_of_taken found
      have open' := up.previous _ mem cause previousState callback rfl
      have told := subscribed.told _ mem cause previousState callback rfl
      have started := (invariant.phase.previous _ mem cause previousState callback rfl).1
      have left : previousState = .connected ∨ previousState = .closing := by
        cases previousState with
        | null => exact absurd rfl started
        | connecting => exact absurd rfl open'
        | connected => exact .inl rfl
        | closing => exact .inr rfl
      have ended : Effects host [.control, .ending] (s.takeTask index) _ :=
        onQueueCancelled_effects (s.takeTask index) input.errorCode cause false
          (settled cause previousState callback rfl)
      obtain ⟨added, swept⟩ := log_of_effects ended
      refine ⟨cause.orElse input.errorCode, ?_⟩
      subst told
      simp only [perform, onQueueCancelled_told (s := s.takeTask index) pending left, emit_log,
        swept, takeTask_log, append_assoc, drop_left]
      exact mem_append_right _ (mem_singleton.mpr rfl)
    | _ => contradiction

/-- What a step that runs work reports to a user that listens. -/
structure Reports (s t : Client) : Prop where
  opens : ∀ output ∈ t.log.drop s.log.length, output.opens = true → t.Up
  ends : s.Up → t.Up ∨ ∃ errorCode, .disconnection errorCode ∈ t.log.drop s.log.length

theorem step_reports (invariant : s.Invariant) (subscribed : s.Subscribed) {input : Input}
    (silent : input.calls = []) (taken : step host s (.run index input) = some t) :
    t.Subscribed ∧ Reports s t := by
  rcases step_cases taken with ⟨_, called, -⟩ | ⟨_, _, task, ran, found, rfl⟩
  · contradiction
  · cases ran
    exact ⟨subscribed.run invariant found silent, opens_of_run invariant found input,
      fun up => up.run subscribed invariant found input⟩

/-! ## Calls -/

/-- What a user that listens asks of the client: a connect after its callbacks are installed,
and the calls that neither connect nor change the callbacks. -/
inductive Asked (s : Client) : Client → Prop where
  | connect (address : Address) :
      Asked s ((s.setControlCallbacks ⟨true, true⟩).call (.asyncConnect address))
  | create (properties : TunnelProperties) : Asked s (s.call (.asyncCreateTunnel properties))
  | accept (tunnelId : String) (peer : PeerId) :
      Asked s (s.call (.asyncAcceptTunnel tunnelId peer))
  | cancel (op : OpId) : Asked s (s.call (.cancel op))
  | close : Asked s (s.call .close)

/-- A connect that another one keeps from reserving. -/
theorem connect_of_busy (busy : s.isStateNonNull = true) (address : Address) :
    (s.setControlCallbacks ⟨true, true⟩).call (.asyncConnect address) =
      (s.allocate (.connect s.nextOp) id).start (.asyncConnectInternal s.nextOp) := by
  simp only [setControlCallbacks, busy, if_true, Client.call, issue, reserveConnect,
    Option.elim_some]

/-- A connect that reserves: the callbacks are installed. -/
theorem connect_of_free (free : s.isStateNonNull = false) (address : Address) :
    (s.setControlCallbacks ⟨true, true⟩).call (.asyncConnect address) =
      ({ s.allocate (.connect s.nextOp) (fun o => { o with reserved := true }) with
        controlCallbacks := ⟨true, true⟩, isStateNonNull := true
        serverAddress := address } : Client).start (.asyncConnectInternal s.nextOp) := by
  simp only [setControlCallbacks, free, Bool.false_eq_true, if_false, Client.call, issue,
    reserveConnect, Option.elim_some]
  rfl

namespace Asked

theorem invariant (asked : s.Asked t) (before : s.Invariant) : t.Invariant := by
  have called {u : Client} (kept : u.Invariant) (call : Call) : (u.call call).Invariant := by
    have taken : Client.step .plain u (.call call) = some (u.call call) := rfl
    exact kept.step taken
  cases asked with
  | connect address => exact called (called before (.setControlCallbacks ⟨true, true⟩)) _
  | create _ | accept _ _ | cancel _ | close => exact called before _

/-- A change of an operation object and the dispatch of work, as all calls make them. -/
theorem subscribed_of_dispatch (subscribed : s.Subscribed) (id : OpId) (change : Op → Op)
    {nextOp : Nat} {work : Work} (reserved : ∀ o, (change o).reserved = o.reserved)
    (completed : ∀ o, (change o).completed = o.completed) (other : work.isQueueCancel = false) :
    Subscribed (({ s.modifyOp id change with nextOp := nextOp } : Client).start work) := by
  refine subscribed.of_same rfl rfl rfl rfl (fun op holds => ?_) (isQueueCancel_mem other)
  have held : (s.modifyOp id change).Holding op := holds
  exact holding_modifyOp s id change (fun o here => (reserved o).symm.trans here) completed held

/-- What is asked keeps the subscription. -/
theorem subscribed (asked : s.Asked t) (before : s.Subscribed) : t.Subscribed := by
  cases asked with
  | connect address =>
    cases busy : s.isStateNonNull with
    | true =>
      rw [connect_of_busy busy]
      exact subscribed_of_dispatch before _ _ (fun _ => rfl) (fun _ => rfl) rfl
    | false =>
      rw [connect_of_free busy]
      have idle : s.state = .null := by
        by_contra running
        rw [(before.running running).1] at busy
        contradiction
      have fresh : ∀ op, Holding
          (({ s.allocate (.connect s.nextOp) (fun o => { o with reserved := true }) with
            controlCallbacks := ⟨true, true⟩, isStateNonNull := true
            serverAddress := address } : Client).start (.asyncConnectInternal s.nextOp)) op →
          op = s.nextOp := by
        intro op holds
        by_contra apart
        have other : OpId.connect op ≠ .connect s.nextOp := by simpa using apart
        have here := holds.1
        have pending := holds.2
        simp only [start_ops, allocate_ops, Function.update_of_ne other] at here pending
        rw [(before.reserved op ⟨here, pending⟩).1] at busy
        contradiction
      refine ⟨fun running => absurd idle running, fun _ _ => ⟨rfl, rfl⟩,
        fun _ _ running => absurd idle running, fun op other holds also => ?_,
        fun task mem cause previousState callback work => ?_⟩
      · rw [fresh op holds, fresh other also]
      · have known := isQueueCancel_mem rfl task mem (by rw [work]; rfl)
        exact before.told task known cause previousState callback work
  | create properties | accept tunnelId peer =>
    exact subscribed_of_dispatch before _ _ (fun _ => rfl) (fun _ => rfl) rfl
  | cancel op =>
    cases live : (s.ops op).live with
    | true =>
      simp only [Client.call, issue, live, if_true, Option.elim_some]
      have work : (s.cancelWork op).isQueueCancel = false := by
        cases op with
        | _ => rfl
      exact subscribed_of_dispatch before op (fun o => { o with cancelled := true })
        (fun _ => rfl) (fun _ => rfl) work
    | false =>
      simpa only [Client.call, issue, live, Bool.false_eq_true, if_false, Option.elim_none]
        using before
  | close =>
    exact before.of_same rfl rfl rfl rfl (fun _ holds => holds) (isQueueCancel_mem rfl)

/-- What is asked of an open connection leaves it open. -/
theorem up (asked : s.Asked t) (before : s.Up) : t.Up := by
  cases asked with
  | connect address =>
    cases busy : s.isStateNonNull with
    | true =>
      rw [connect_of_busy busy]
      exact before.of_same rfl (isQueueCancel_mem rfl)
    | false =>
      rw [connect_of_free busy]
      exact before.of_same rfl (isQueueCancel_mem rfl)
  | create properties | accept tunnelId peer | close => exact before.of_same rfl (isQueueCancel_mem rfl)
  | cancel op =>
    cases live : (s.ops op).live with
    | true =>
      simp only [Client.call, issue, live, if_true, Option.elim_some]
      cases op with
      | _ => exact before.of_same rfl (isQueueCancel_mem rfl)
    | false =>
      simpa only [Client.call, issue, live, Bool.false_eq_true, if_false, Option.elim_none]
        using before

end Asked

theorem subscribed_make (config : ConfigClient) (defaultServerAddress : Except ErrorCode Address)
    (token mtlsToken : Except ErrorCode (Option String)) :
    (make config defaultServerAddress token mtlsToken).Subscribed := by
  have none (op : Nat) : ¬ (make config defaultServerAddress token mtlsToken).Holding op := by
    rintro ⟨reserved, -⟩
    contradiction
  exact ⟨fun running => absurd rfl running, fun op holds => absurd holds (none op),
    fun op holds => absurd holds (none op), fun op _ holds => absurd holds (none op),
    fun _ mem => absurd mem not_mem_nil⟩

end Client

end Rstream.IoRstrm
